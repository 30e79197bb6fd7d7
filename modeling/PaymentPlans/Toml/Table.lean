/-
# Putting tables together

The statements of a TOML text are put one after the other into the table of the whole text.  A
key names a value once only; a table may be given one header, and after that only lines under
the header add to it; what is written between brackets or braces is complete.
-/
import PaymentPlans.Toml.Value

namespace PaymentPlans.Toml

/-- A key: the names of the tables that lead to it, and its own. -/
structure Key where
  /-- The tables, from the outermost one. -/
  path : List String
  /-- The name in the last of them. -/
  name : String
deriving DecidableEq, Repr

/-- The statements of a text. -/
inductive Statement where
  | entry (key : Key) (value : Value)
  | header (key : Key)
  /-- The header of one more table of a list. -/
  | listHeader (key : Key)

/-- Puts a value under a name, in place of the one that stands there, if any. -/
def Entries.set (name : String) (value : Value) : Entries → Entries
  | [] => [(name, value)]
  | (n, v) :: entries =>
    if n = name then (n, value) :: entries else (n, v) :: Entries.set name value entries

/-- Changes the table at the end of a path, and makes the tables that are missing on the way.  A
path of a key with dots does not lead through a table that has a header; of a list of tables it
leads through the last one. -/
def descend (byDots : Bool) (change : Origin → Entries → Option (Origin × Entries)) :
    List String → Origin → Entries → Option (Origin × Entries)
  | [], origin, entries => change origin entries
  | name :: path, origin, entries => do
    let through (o : Origin) (es : Entries) : Option Value :=
      (descend byDots change path o es).map fun (o, es) => .table o es
    let child ← match entries.lookup name with
      | none => through (if byDots then .dotted else .implied) []
      | some (.table .closed _) => none
      | some (.table .headed es) => if byDots then none else through .headed es
      | some (.table o es) => through o es
      | some (.tables items) =>
        match items.getLast? with
        | some (.table o es) => (through o es).map fun last => .tables (items.dropLast ++ [last])
        | _ => none
      | some _ => none
    return (origin, entries.set name child)

/-- Puts a new value into a table.  A path with dots may end only in a table that dots made. -/
def putValue (byDots : Bool) (name : String) (value : Value) (origin : Origin)
    (entries : Entries) : Option (Origin × Entries) :=
  if byDots = (origin == .dotted) ∧ (entries.lookup name).isNone then
    some (origin, entries.set name value)
  else none

/-- Puts an entry into a table. -/
def putEntry (key : Key) (value : Value) (origin : Origin) (entries : Entries) :
    Option (Origin × Entries) :=
  descend true (putValue (!key.path.isEmpty) key.name value) key.path origin entries

/-- Puts a value under a name behind all other entries, and takes away the one that stands there,
if any. -/
def Entries.setLast (name : String) (value : Value) (entries : Entries) : Entries :=
  entries.filter (·.1 ≠ name) ++ [(name, value)]

/-- Gives a table its header.  The newest header comes last, also if its table was named before. -/
def openTable (name : String) (origin : Origin) (entries : Entries) : Option (Origin × Entries) :=
  match entries.lookup name with
  | none => some (origin, entries.setLast name (.table .headed []))
  | some (.table .implied es) => some (origin, entries.setLast name (.table .headed es))
  | some _ => none

/-- Adds a table to a list of tables. -/
def openListed (name : String) (origin : Origin) (entries : Entries) :
    Option (Origin × Entries) :=
  match entries.lookup name with
  | none => some (origin, entries.set name (.tables [.table .headed []]))
  | some (.tables items) =>
    some (origin, entries.set name (.tables (items ++ [.table .headed []])))
  | some _ => none

/-! ## Tables between braces -/

/-- The table of some members. -/
def inlineTable? (members : List (Key × Value)) : Option Entries :=
  (members.foldlM (fun (table : Origin × Entries) member =>
    putEntry member.1 member.2 table.1 table.2) (.headed, [])).map Prod.snd

/-! ## Documents -/

/-- A part of a document: the table of all statements so far, and the path to the table that
entries go into. -/
structure Draft where
  /-- The whole table. -/
  entries : Entries := []
  /-- The path of the newest header. -/
  current : List String := []

/-- Takes one more statement. -/
def Draft.add (d : Draft) : Statement → Option Draft
  | .entry key value =>
    (descend false (putEntry key value) d.current .headed d.entries).map fun (_, entries) =>
      { d with entries }
  | .header key =>
    (descend false (openTable key.name) key.path .headed d.entries).map fun (_, entries) =>
      { entries, current := key.path ++ [key.name] }
  | .listHeader key =>
    (descend false (openListed key.name) key.path .headed d.entries).map fun (_, entries) =>
      { entries, current := key.path ++ [key.name] }

/-- The table that some statements make together. -/
def document? (statements : List Statement) : Option Entries :=
  (statements.foldlM Draft.add {}).map Draft.entries

end PaymentPlans.Toml
