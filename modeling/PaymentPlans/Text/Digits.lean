/-
# Decimal digits

Numbers written with the ten ASCII digits: the value of one digit, the shortest writing of a
number, and a writing of fixed width with zeros in front.
-/

namespace PaymentPlans.Text

/-- The value of an ASCII digit. -/
def digit? (c : Char) : Option Nat :=
  if c.isDigit then some (c.toNat - '0'.toNat) else none

/-- The digits of a number, with no needless zero in front. -/
def digits (n : Nat) : List Char := Nat.toDigits 10 n

/-- The digits of a number, with zeros in front up to the given width. -/
def digitsWidth (width n : Nat) : List Char :=
  List.replicate (width - (digits n).length) '0' ++ digits n

/-- The number that a list of digits writes. -/
def ofDigits (cs : List Char) : Nat := Nat.ofDigitChars 10 cs 0

@[simp] theorem ofDigits_digits (n : Nat) : ofDigits (digits n) = n :=
  Nat.ofDigitChars_toDigits (by decide) (by decide)

/-- Zeros in front change nothing. -/
@[simp] theorem ofDigits_digitsWidth (width n : Nat) : ofDigits (digitsWidth width n) = n := by
  have zeros : ∀ k : Nat, Nat.ofDigitChars 10 (List.replicate k '0') 0 = 0 := by
    intro k
    simp [Nat.ofDigitChars_replicate_zero]
  rw [digitsWidth, ofDigits, Nat.ofDigitChars_append, zeros]
  exact ofDigits_digits n

end PaymentPlans.Text
