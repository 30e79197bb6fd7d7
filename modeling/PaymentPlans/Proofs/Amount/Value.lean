/-
# Amounts as numbers

An amount stands for a rational number, and so does the text of a numeral, whether it can be read
or not: its digits are one number, of which some stand behind the point, and an exponent moves the
point.  Not every number is one that an amount can stand for.
-/
import Mathlib.Algebra.Order.Field.Rat
import Mathlib.Tactic.Positivity
import PaymentPlans.Amount.Reader
import PaymentPlans.Proofs.Text.Digits

namespace PaymentPlans

open Text (digitsIn followedBy ofDigits)

/-- What a sign multiplies with. -/
def signFactor (negative : Bool) : ℚ := if negative then -1 else 1

@[simp] lemma abs_signFactor_mul (negative : Bool) (q : ℚ) : |signFactor negative * q| = |q| := by
  cases negative <;> simp [signFactor]

namespace Magnitude

/-- The number that a size stands for. -/
def value (m : Magnitude) : ℚ := m.units / 10 ^ m.places

/-- A number is that of a size. -/
def Fits (q : ℚ) : Prop := ∃ m : Magnitude, m.value = q

lemma value_nonneg (m : Magnitude) : 0 ≤ m.value := by
  unfold value
  positivity

end Magnitude

namespace Amount

/-- The number that an amount stands for. -/
def value (a : Amount) : ℚ := a.coefficient / 10 ^ a.places

/-- A number is one that an amount can stand for. -/
def Holds (q : ℚ) : Prop := ∃ a : Amount, a.value = q

lemma value_mk (negative : Bool) (m : Magnitude) :
    (⟨negative, m⟩ : Amount).value = signFactor negative * m.value := by
  cases negative <;> simp [value, coefficient, places, signFactor, Magnitude.value, neg_div]

/-- The sign that a zero loses changes nothing about its number. -/
lemma value_ofMagnitude (negative : Bool) (m : Magnitude) :
    (ofMagnitude negative m).value = signFactor negative * m.value := by
  by_cases hzero : m.units = 0
  · simp [ofMagnitude, value_mk, Magnitude.value, hzero]
  · rw [ofMagnitude_of_units_ne_zero negative m hzero, value_mk]

/-- Amounts can stand for the numbers that sizes stand for, with either sign. -/
lemma holds_iff_fits {q : ℚ} (hq : 0 ≤ q) (negative : Bool) :
    Holds (signFactor negative * q) ↔ Magnitude.Fits q := by
  constructor
  · rintro ⟨⟨sign, m⟩, hvalue⟩
    have habs := congrArg abs hvalue
    rw [value_mk, abs_signFactor_mul, abs_signFactor_mul, abs_of_nonneg m.value_nonneg,
      abs_of_nonneg hq] at habs
    exact ⟨m, habs⟩
  · rintro ⟨m, rfl⟩
    exact ⟨⟨negative, m⟩, value_mk negative m⟩

/-! ## What texts write -/

/-- How many digits stand behind the point. -/
def placesIn (cs : List Char) : Nat := (digitsIn (cs.dropWhile (· != '.'))).length

lemma placesIn_cons {c : Char} (h : c ≠ '.') (cs : List Char) :
    placesIn (c :: cs) = placesIn cs := by
  rw [placesIn, List.dropWhile_cons_of_pos (by simpa using h), placesIn]

/-- The number that a numeral without exponent writes, without its sign. -/
def sizeWritten (cs : List Char) : ℚ := ofDigits (digitsIn cs) / 10 ^ placesIn cs

/-- The number that a numeral without exponent writes. -/
def plainNumber (cs : List Char) : ℚ := signFactor (cs.head? == some '-') * sizeWritten cs

/-- The exponent that is written. -/
def exponentWritten (cs : List Char) : ℤ :=
  if cs.head? = some '-' then -ofDigits (digitsIn cs) else ofDigits (digitsIn cs)

/-- What stands before the exponent. -/
def baseOf (cs : List Char) : List Char := cs.takeWhile (!isExponentMark ·)

/-- What stands behind the letter of the exponent, if there is one. -/
def exponentOf (cs : List Char) : List Char := (cs.dropWhile (!isExponentMark ·)).tail

/-- The number that a text writes before its exponent, without blanks around it. -/
def baseNumber (text : String) : ℚ := plainNumber (baseOf (Text.trim text.toList))

/-- The number that a text writes. -/
def number (text : String) : ℚ :=
  baseNumber text * 10 ^ exponentWritten (exponentOf (Text.trim text.toList))

lemma sizeWritten_nonneg (cs : List Char) : 0 ≤ sizeWritten cs := by
  unfold sizeWritten
  positivity

end Amount

end PaymentPlans
