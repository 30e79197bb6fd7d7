/-
# The file of the settings

The settings of a user are a TOML file that says where the database is and how many connections
to it may be open.  What is written there is read back unchanged.
-/
import PaymentPlans.Text.Digits
import PaymentPlans.Toml.Reader
import PaymentPlans.Toml.Text.Printer

namespace PaymentPlans

/-- What the file of the settings says. -/
structure Settings where
  url : String
  /-- The most connections that may be open, if the user chose a number. -/
  maxConnections : Option Nat := none
deriving DecidableEq, Repr

namespace Settings

open Toml (Value)

/-- How many connections can be asked for at most. -/
def connectionLimit : Nat := (1 <<< 32) - 1

/-- The number of connections that a value is. -/
def connections? : Value → Option Nat
  | .integer n => if 0 ≤ n ∧ n ≤ connectionLimit then some n.toNat else none
  | _ => none

/-- The settings that a value is. -/
def ofDatabase? (database : Value) : Option Settings :=
  match database.fields? ["url", "max_connections"] with
  | some [some url, none] => do return { url := ← url.text? }
  | some [some url, some maxConnections] => do
    return { url := ← url.text?, maxConnections := some (← connections? maxConnections) }
  | _ => none

/-- The settings that a document gives. -/
def ofToml? (document : Value) : Option Settings :=
  match document.fields? ["database"] with
  | some [some database] => ofDatabase? database
  | _ => none

/-- Reads settings. -/
def read (text : String) : Option Settings := Toml.read text >>= ofToml?

/-- The characters of a line with a key and a value. -/
def line (key : String) (value : List Char) : List Char :=
  key.toList ++ ' ' :: '=' :: ' ' :: (value ++ ['\n'])

/-- The characters of settings. -/
def chars (s : Settings) : List Char :=
  "[database]\n".toList ++ line "url" (Toml.writeString s.url) ++
    s.maxConnections.elim [] fun n => line "max_connections" (Text.digits n)

/-- The text of settings. -/
def text (s : Settings) : String := String.ofList s.chars

end Settings

end PaymentPlans
