/-
# Amounts of money

An amount is a decimal number: a sign, digits that stay below 2⁹⁶ as one number, and at most 28 of
them behind the point.  The number of places is part of the amount: `10.50` and `10.5` are the
same number but two amounts, and each is written the way it was read.  So is the sign: zero can
be written with one.
-/
import PaymentPlans.Text.Digits

namespace PaymentPlans

namespace Amount

/-- The digits of an amount, read as one number, stay below this bound. -/
def limit : Nat := 1 <<< 96

/-- The most places that an amount has behind the point. -/
def maxPlaces : Nat := 28

end Amount

/-- The size of an amount, without its sign. -/
structure Magnitude where
  /-- All digits, read as one number. -/
  units : Nat
  /-- How many of them stand behind the point. -/
  places : Nat
  /-- The digits fit. -/
  units_lt : units < Amount.limit
  /-- The places fit. -/
  places_le : places ≤ Amount.maxPlaces
deriving DecidableEq

/-- A decimal number, together with its number of places and its sign. -/
structure Amount where
  /-- Whether the amount is written with a sign. -/
  isNegative : Bool
  magnitude : Magnitude
deriving DecidableEq

namespace Magnitude

/-- No digit read yet. -/
def zero : Magnitude := ⟨0, 0, by decide, by decide⟩

/-- The magnitude with these parts, if they fit. -/
def ofParts? (units places : Nat) : Option Magnitude :=
  if h : units < Amount.limit ∧ places ≤ Amount.maxPlaces then some ⟨units, places, h.1, h.2⟩
  else none

theorem eq_of_parts {m n : Magnitude} (units : m.units = n.units) (places : m.places = n.places) :
    m = n := by
  cases m
  cases n
  cases units
  cases places
  rfl

theorem ofParts?_eq_some_iff {units places : Nat} {m : Magnitude} :
    ofParts? units places = some m ↔ m.units = units ∧ m.places = places := by
  unfold ofParts?
  split
  · next h =>
    constructor
    · rintro ⟨⟩
      exact ⟨rfl, rfl⟩
    · rintro ⟨rfl, rfl⟩
      rfl
  · next h =>
    refine ⟨nofun, ?_⟩
    rintro ⟨rfl, rfl⟩
    exact absurd ⟨m.units_lt, m.places_le⟩ h

theorem ofParts?_eq_none_iff {units places : Nat} :
    ofParts? units places = none ↔ Amount.limit ≤ units ∨ Amount.maxPlaces < places := by
  unfold ofParts?
  split
  · next h => simp [Nat.not_le.2 h.1, Nat.not_lt.2 h.2]
  · next h =>
    simp only [true_iff]
    omega

/-- One more digit before the point, if there is room. -/
def pushWhole? (m : Magnitude) (digit : Nat) : Option Magnitude :=
  ofParts? (m.units * 10 + digit) m.places

/-- One more digit behind the point, if there is room. -/
def pushPlace? (m : Magnitude) (digit : Nat) : Option Magnitude :=
  ofParts? (m.units * 10 + digit) (m.places + 1)

/-- One more in the last place.  When the digits no longer fit the last place is given up, and
its digit is rounded away; with no place to give up there is no such magnitude. -/
def bump? (m : Magnitude) : Option Magnitude :=
  match ofParts? (m.units + 1) m.places with
  | some next => some next
  | none => if m.places = 0 then none else ofParts? ((m.units + 5) / 10) (m.places - 1)

end Magnitude

namespace Amount

/-- The amount that a numeral of this size stands for.  A zero has no sign. -/
def ofMagnitude (negative : Bool) (m : Magnitude) : Amount := ⟨negative && m.units != 0, m⟩

/-- How many of the digits stand behind the point. -/
def places (a : Amount) : Nat := a.magnitude.places

/-- All digits, read as one number with the sign. -/
def coefficient (a : Amount) : Int :=
  if a.isNegative then -(a.magnitude.units : Int) else a.magnitude.units

theorem ofMagnitude_of_units_ne_zero (negative : Bool) (m : Magnitude) (h : m.units ≠ 0) :
    ofMagnitude negative m = ⟨negative, m⟩ := by
  simp [ofMagnitude, h]

/-- The digits of a size, with the point in its place and at least one digit before it. -/
def magnitudeText (m : Magnitude) : List Char :=
  let ds := Text.digitsWidth (m.places + 1) m.units
  let whole := ds.take (ds.length - m.places)
  if m.places = 0 then whole else whole ++ '.' :: ds.drop (ds.length - m.places)

/-- The written form of an amount: its sign, if it has one, then all its places. -/
def chars (a : Amount) : List Char :=
  if a.isNegative then '-' :: magnitudeText a.magnitude else magnitudeText a.magnitude

/-- The written form of an amount. -/
def text (a : Amount) : String := String.ofList a.chars

end Amount

end PaymentPlans
