/-
# Values of TOML

Strings, numbers, truth values, moments, lists and tables.  A table remembers how it came about,
for that decides whether a later line may add to it; and a list of tables that have headers of
their own is told from a list between brackets, for only the former may grow.
-/
import PaymentPlans.Toml.Moment

namespace PaymentPlans.Toml

/-- How a table came about. -/
inductive Origin where
  /-- It has a header. -/
  | headed
  /-- The header of a table in it was the first to name it. -/
  | implied
  /-- A key with dots was the first to name it. -/
  | dotted
  /-- It is written between braces, and complete. -/
  | closed
deriving DecidableEq, Repr

/-- A value.  Nothing depends on how large a number with a fraction is, and so it is not kept. -/
inductive Value where
  | text (s : String)
  | integer (n : Int)
  /-- A number with a fraction or a power of ten, or one that is no number. -/
  | float
  | boolean (b : Bool)
  /-- A date, a time, or both. -/
  | moment (m : Moment)
  /-- A list between brackets. -/
  | list (items : List Value)
  /-- The tables of one name that have headers, in order. -/
  | tables (items : List Value)
  | table (origin : Origin) (entries : List (String × Value))
deriving Inhabited

/-- Keys and what stands behind them, each key once. -/
abbrev Entries := List (String × Value)

/-- What kind of value it is, in a word. -/
def Value.kind : Value → String
  | text _ => "string"
  | integer _ => "integer"
  | float => "float"
  | boolean _ => "boolean"
  | moment _ => "datetime"
  | list _ => "array"
  | tables _ => "array"
  | table _ _ => "table"

/-- The string that a value is. -/
def Value.text? : Value → Option String
  | text s => some s
  | _ => none

/-- The items of a list of either kind. -/
def Value.items? : Value → Option (List Value)
  | list items => some items
  | tables items => some items
  | _ => none

/-- The values of some fields: those under their names in a table, or a list of them in order.
A field may be missing. -/
def Value.fields? (names : List String) : Value → Option (List (Option Value))
  | table _ entries => some (names.map fun name => entries.lookup name)
  | list items => some (names.mapIdx fun i _ => items[i]?)
  | tables items => some (names.mapIdx fun i _ => items[i]?)
  | _ => none

/-! ## Tables that stand for moments -/

/-- The key that marks a table as a moment, if it is the first one of the table. -/
def momentKey : String := "$__toml_private_datetime"

/-- The moment that a string under the marking key gives. -/
def Value.marked? : Value → Option Value
  | text s => (Moment.ofText? s).map .moment
  | _ => none

mutual

/-- Puts moments in the place of the marked tables in a value.  The other keys of a marked table
do not matter, but its string has to give a moment. -/
def Value.settle? : Value → Option Value
  | .list items => (settleItems? items).map .list
  | .tables items => (settleItems? items).map .tables
  | .table origin [] => some (.table origin [])
  | .table origin ((name, value) :: entries) =>
    if name = momentKey then value.marked?
    else do return .table origin ((name, ← value.settle?) :: (← settleEntries? entries))
  | v => some v

/-- Puts moments in the place of the marked tables in some values. -/
def settleItems? : List Value → Option (List Value)
  | [] => some []
  | v :: items => do return (← v.settle?) :: (← settleItems? items)

/-- Puts moments in the place of the marked tables behind some keys. -/
def settleEntries? : Entries → Option Entries
  | [] => some []
  | (name, v) :: entries => do return (name, ← v.settle?) :: (← settleEntries? entries)

end

end PaymentPlans.Toml
