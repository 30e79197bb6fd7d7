/-
# Reading the lines of TOML

A TOML text is a list of statements, one a line: a key with its value, the header of a table, or
the header of one more table of a list.  What the statements say together is not looked at here.
-/
import PaymentPlans.Toml.Number
import PaymentPlans.Toml.Table

namespace PaymentPlans.Toml

/-! ## Keys -/

/-- How many parts a key may have at most. -/
def maxParts : Nat := 79

/-- Whether a character may stand in a key without quotes. -/
def isBare (c : Char) : Bool := c.isAlphanum || c == '_' || c == '-'

/-- Takes one part of a key. -/
def scanPart : Scan String
  | [] => none
  | c :: cs =>
    if c = '"' then (scanShort .double cs).map fun (ds, rest) => (String.ofList ds, rest)
    else if c = '\'' then (scanShort .single cs).map fun (ds, rest) => (String.ofList ds, rest)
    else if isBare c then
      some (String.ofList (c :: cs.takeWhile isBare), cs.dropWhile isBare)
    else none

/-- Takes the parts of a key, with dots between them and gaps around them. -/
def scanPartsFuel : Nat → Scan (List String)
  | 0, _ => none
  | fuel + 1, cs => do
    let (part, cs) ← scanPart (skipGap cs)
    match skipGap cs with
    | '.' :: cs =>
      let (parts, cs) ← scanPartsFuel fuel cs
      return (part :: parts, cs)
    | cs => return ([part], cs)

/-- Takes a key. -/
def scanKey : Scan Key := fun cs => do
  let (parts, cs) ← scanPartsFuel (cs.length + 1) cs
  match parts.getLast? with
  | none => none
  | some last => if parts.length ≤ maxParts then return (⟨parts.dropLast, last⟩, cs) else none

/-! ## Values -/

/-- How deep lists and tables in a value may be nested. -/
def maxDepth : Nat := 79

/-- Takes the items of a list and its end, behind its bracket. -/
def scanItemsFuel (scanItem : Scan Value) : Nat → Scan (List Value)
  | 0, _ => none
  | fuel + 1, cs =>
    match skipLayout cs with
    | ']' :: rest => some ([], rest)
    | cs => do
      let (item, cs) ← scanItem cs
      match skipLayout cs with
      | ',' :: cs =>
        let (items, cs) ← scanItemsFuel scanItem fuel cs
        return (item :: items, cs)
      | ']' :: cs => return ([item], cs)
      | _ => none

/-- Takes the members of a table and its end, behind its brace or a comma. -/
def scanMembersFuel (scanItem : Scan Value) : Nat → Scan (List (Key × Value))
  | 0, _ => none
  | fuel + 1, cs => do
    let (key, cs) ← scanKey cs
    let ((), cs) ← scanChar '=' cs
    let (value, cs) ← scanItem (skipGap cs)
    match skipGap cs with
    | ',' :: cs =>
      let (members, cs) ← scanMembersFuel scanItem fuel cs
      return ((key, value) :: members, cs)
    | '\x7d' :: cs => return ([(key, value)], cs)
    | _ => none

/-- Takes a table behind its brace. -/
def scanMembers (scanItem : Scan Value) : Scan (List (Key × Value)) := fun cs =>
  match skipGap cs with
  | '\x7d' :: rest => some ([], rest)
  | _ => scanMembersFuel scanItem (cs.length + 1) cs

/-- Takes a word. -/
def scanWord (word : List Char) : Scan Unit := fun cs =>
  if word.isPrefixOf cs then some ((), cs.drop word.length) else none

/-- Takes a value in which lists and tables are nested no deeper than the given depth. -/
def scanValue : (depth : Nat) → Scan Value
  | _, [] => none
  | depth, c :: cs =>
    if c = '"' then (scanString .double (c :: cs)).map fun (s, rest) => (.text s, rest)
    else if c = '\'' then (scanString .single (c :: cs)).map fun (s, rest) => (.text s, rest)
    else if c = 't' then
      (scanWord "true".toList (c :: cs)).map fun (_, rest) => (.boolean true, rest)
    else if c = 'f' then
      (scanWord "false".toList (c :: cs)).map fun (_, rest) => (.boolean false, rest)
    else if c = '[' then
      match depth with
      | 0 => none
      | depth + 1 =>
        (scanItemsFuel (scanValue depth) (cs.length + 1) cs).map fun (items, rest) =>
          (.list items, rest)
    else if c = '\x7b' then
      match depth with
      | 0 => none
      | depth + 1 => do
        let (members, rest) ← scanMembers (scanValue depth) cs
        return (.table .closed (← inlineTable? members), rest)
    else ((scanMoment .strict (c :: cs)).map fun (m, rest) => (.moment m, rest)).or
      (scanNumeral (c :: cs))

/-! ## Statements -/

/-- Takes a statement that starts with the given text, up to the end of its line. -/
def scanStatement : Scan Statement
  | '[' :: '[' :: cs => do
    let (key, cs) ← scanKey cs
    let ((), cs) ← scanWord [']', ']'] cs
    let ((), cs) ← scanLineEnd cs
    return (.listHeader key, cs)
  | '[' :: cs => do
    let (key, cs) ← scanKey cs
    let ((), cs) ← scanChar ']' cs
    let ((), cs) ← scanLineEnd cs
    return (.header key, cs)
  | cs => do
    let (key, cs) ← scanKey cs
    let ((), cs) ← scanChar '=' cs
    let (value, cs) ← scanValue maxDepth (skipGap cs)
    let ((), cs) ← scanLineEnd cs
    return (.entry key value, cs)

/-- Reads all statements; lines without a statement are passed over. -/
def readStatementsFuel : Nat → List Char → Option (List Statement)
  | 0, _ => none
  | fuel + 1, cs =>
    match skipLayout cs with
    | [] => some []
    | '#' :: cs => if (cs.dropWhile isShown).isEmpty then some [] else none
    | cs => do
      let (statement, cs) ← scanStatement cs
      return statement :: (← readStatementsFuel fuel cs)

/-- Leaves out the mark that tells the order of bytes. -/
def skipMark : List Char → List Char
  | '\ufeff' :: cs => cs
  | cs => cs

/-- Reads the statements of a text. -/
def readStatements (text : String) : Option (List Statement) :=
  let cs := skipMark text.toList
  readStatementsFuel (cs.length + 1) cs

/-- Reads a text: the table that all its statements make together. -/
def read (text : String) : Option Value :=
  (readStatements text >>= document?).map (.table .headed)

end PaymentPlans.Toml
