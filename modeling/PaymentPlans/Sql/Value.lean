/-
# Values and rows

What a statement is given and what it gives back: typed values, and rows of them in the order of
the statement's columns.
-/
import PaymentPlans.Plan

namespace PaymentPlans.Sql

/-- A value of a column or of a parameter. -/
inductive Value where
  | null
  | identifier (id : Identifier)
  | text (s : String)
  | amount (a : Amount)
  | instant (i : Instant)
  | bool (b : Bool)
  | integer (n : Int)
deriving DecidableEq

/-- A row: its values in the order of the columns. -/
abbrev Row := List Value

/-- A failure of the database, with the words of the database. -/
structure Failure where
  message : String
deriving DecidableEq, Repr

/-- What a statement is answered by: its rows, or a failure. -/
abbrev Reply := Except Failure (List Row)

namespace Value

/-- The identifier in a column of identifiers. -/
def identifier? : Value → Option Identifier
  | identifier id => some id
  | _ => none

/-- The text in a column of texts. -/
def text? : Value → Option String
  | text s => some s
  | _ => none

/-- The amount in a column of amounts. -/
def amount? : Value → Option Amount
  | amount a => some a
  | _ => none

/-- The instant in a column of instants. -/
def instant? : Value → Option Instant
  | instant i => some i
  | _ => none

/-- The truth value in a column of truth values. -/
def bool? : Value → Option Bool
  | bool b => some b
  | _ => none

/-- The number in a column of whole numbers. -/
def integer? : Value → Option Int
  | integer n => some n
  | _ => none

end Value

end PaymentPlans.Sql
