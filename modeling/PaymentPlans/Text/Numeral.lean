/-
# Numerals

A number as it is written with digits, a point and a power of ten, and whether it is beyond what
double precision can hold.  That is asked in two ways: of the number as it is written, and of the
product that comes out when the digits and the power of ten are put into double precision first.
Close to the limit the two differ.
-/
import PaymentPlans.Text.Digits

namespace PaymentPlans.Text

/-- A number as it is written, without its sign: the value of its digits, and the power of ten
to take it by. -/
structure Numeral where
  /-- All digits, before and behind the point. -/
  digits : Nat
  exponent : Int
deriving DecidableEq, Repr

/-- The least number that rounds to infinity in double precision. -/
def doubleLimit : Nat := (1 <<< 1024) - (1 <<< 970)

/-- Whether a number is too large for double precision. -/
def Numeral.isTooLarge (n : Numeral) : Bool :=
  let size : Int := (Text.digits n.digits).length + n.exponent
  if n.digits = 0 ∨ size ≤ 308 then false
  else if 309 < size then true
  else if 0 ≤ n.exponent then doubleLimit ≤ n.digits * Nat.pow 10 n.exponent.toNat
  else doubleLimit * Nat.pow 10 n.exponent.natAbs ≤ n.digits

/-- The number in double precision that is nearest to a whole number, as if there were no largest
one; of two that are as near it is the one whose last binary digit is zero. -/
def roundDouble (n : Nat) : Nat :=
  let unit := 1 <<< (n.log2 - 52)
  let kept := n / unit
  let lost := n % unit
  if 2 * lost < unit ∨ (2 * lost = unit ∧ kept % 2 = 0) then kept * unit else (kept + 1) * unit

/-- Whether the product of the digits and the power of ten, both in double precision, is too
large.  The largest power that there is a number for is the 308th. -/
def Numeral.hasTooLargeProduct (n : Numeral) : Bool :=
  if n.digits = 0 ∨ n.exponent < 0 then false
  else if 308 < n.exponent then true
  else doubleLimit ≤ roundDouble n.digits * roundDouble (Nat.pow 10 n.exponent.toNat)

end PaymentPlans.Text
