/-
# Identifiers

Users, plans and installments are told apart by identifiers of 32 hexadecimal digits, shown in
five groups with hyphens between them.
-/

namespace PaymentPlans

/-- An identifier: 32 hexadecimal digits. -/
structure Identifier where
  /-- The digits, the most significant one first. -/
  digits : List (Fin 16)
  /-- There are 32 of them. -/
  length_digits : digits.length = 32
deriving DecidableEq

namespace Identifier

/-- The identifier with these digits, if there are 32. -/
def ofDigits? (ds : List (Fin 16)) : Option Identifier :=
  if h : ds.length = 32 then some ⟨ds, h⟩ else none

@[simp] theorem ofDigits?_digits (id : Identifier) : ofDigits? id.digits = some id := by
  simp [ofDigits?, id.length_digits]

/-- The last hexadecimal digit of a number. -/
def lastDigit (n : Nat) : Fin 16 := ⟨n % 16, Nat.mod_lt n (by decide)⟩

/-- The identifier whose digits write a number, counted modulo 16³². -/
def ofNat (n : Nat) : Identifier where
  digits := (List.range 32).map fun i => lastDigit (n >>> (4 * (31 - i)))
  length_digits := by simp

instance : Inhabited Identifier := ⟨ofNat 0⟩

/-- The sizes of the five groups in which the digits are shown. -/
def groupSizes : List Nat := [8, 4, 4, 4, 12]

/-- A hexadecimal digit as a lower-case character. -/
def digitChar (d : Fin 16) : Char := Nat.digitChar d.val

/-- The five groups of digits. -/
def groups (id : Identifier) : List (List (Fin 16)) :=
  let ds := id.digits
  [ds.take 8, (ds.drop 8).take 4, (ds.drop 12).take 4, (ds.drop 16).take 4, ds.drop 20]

/-- The written form of an identifier: five groups in lower case, hyphens between them. -/
def chars (id : Identifier) : List Char :=
  List.intercalate ['-'] (id.groups.map (·.map digitChar))

/-- The written form of an identifier. -/
def text (id : Identifier) : String := String.ofList id.chars

instance : ToString Identifier := ⟨text⟩

/-! ## Fresh identifiers -/

/-- The `n`-th identifier of the plain sequence `00000000-0000-4000-8000-000000000000`, … -/
def sequence (n : Nat) : Identifier := ofNat (0x40008000000000000000 + n)

/-- The identifier that random digits make: the version digit is four, and the variant digit is
one of eight, nine, ten and eleven. -/
def ofRandom (n : Nat) : Identifier where
  digits := (ofNat n).digits.zipIdx.map fun (d, i) =>
    if i = 12 then 4 else if i = 16 then lastDigit (8 + d.val % 4) else d
  length_digits := by simp [length_digits]

/-- Whether an identifier is marked as made from random digits. -/
def isRandom (id : Identifier) : Bool := id.digits[12]? == some 4

/-- Identifiers made from random digits are marked as such. -/
theorem isRandom_ofRandom (n : Nat) : (ofRandom n).isRandom = true := by
  simp [isRandom, ofRandom, ofNat]

end Identifier

end PaymentPlans
