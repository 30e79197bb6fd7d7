/-
# Writing JSON

Strings, lists and objects, each item and each member on a line of its own and two blanks deeper
than what it belongs to.
-/
import PaymentPlans.Text.Digits

namespace PaymentPlans.Json

/-- What is written. -/
inductive Value where
  | string (s : String)
  | list (items : List Value)
  /-- An object, with its members in order. -/
  | object (members : List (String × Value))

/-- The two hexadecimal digits of a small number. -/
def hexPair (n : Nat) : List Char := [Nat.digitChar (n / 16), Nat.digitChar (n % 16)]

/-- A character as it stands inside a string. -/
def escape (c : Char) : List Char :=
  if c = '"' then ['\\', '"']
  else if c = '\\' then ['\\', '\\']
  else if c = '\x08' then ['\\', 'b']
  else if c = '\x0c' then ['\\', 'f']
  else if c = '\n' then ['\\', 'n']
  else if c = '\r' then ['\\', 'r']
  else if c = '\t' then ['\\', 't']
  else if c.toNat < 0x20 then ['\\', 'u', '0', '0'] ++ hexPair c.toNat
  else [c]

/-- A string between double quotes. -/
def stringChars (s : String) : List Char := '"' :: (s.toList.flatMap escape ++ ['"'])

/-- A new line that starts at some depth. -/
def newLine (depth : Nat) : List Char := '\n' :: List.replicate (2 * depth) ' '

mutual

/-- A value that stands at some depth. -/
def Value.chars (depth : Nat) : Value → List Char
  | .string s => stringChars s
  | .list [] => ['[', ']']
  | .list (item :: items) =>
    '[' :: (newLine (depth + 1) ++ item.chars (depth + 1) ++ restItems (depth + 1) items ++
      newLine depth ++ [']'])
  | .object [] => ['\x7b', '\x7d']
  | .object ((key, value) :: members) =>
    '\x7b' :: (newLine (depth + 1) ++ stringChars key ++ [':', ' '] ++ value.chars (depth + 1) ++
      restMembers (depth + 1) members ++ newLine depth ++ ['\x7d'])

/-- Items after the first one. -/
def restItems (depth : Nat) : List Value → List Char
  | [] => []
  | item :: items => ',' :: (newLine depth ++ item.chars depth ++ restItems depth items)

/-- Members after the first one. -/
def restMembers (depth : Nat) : List (String × Value) → List Char
  | [] => []
  | (key, value) :: members =>
    ',' :: (newLine depth ++ stringChars key ++ [':', ' '] ++ value.chars depth ++
      restMembers depth members)

end

/-- The written form of a value. -/
def Value.text (v : Value) : String := String.ofList (v.chars 0)

end PaymentPlans.Json
