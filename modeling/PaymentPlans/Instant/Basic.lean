/-
# Instants

Points in time, to the nanosecond, as they are read off a clock in universal time.  A leap
second is kept apart: it is the second with a number of nanoseconds beyond a whole second, and
it comes after every other instant of its minute and before the next minute.
-/
import PaymentPlans.Date
import PaymentPlans.Text.Digits

namespace PaymentPlans

namespace Instant

/-- The nanoseconds of a second. -/
def nanosPerSecond : Nat := 1000000000

/-- The seconds of a day. -/
def secondsPerDay : Nat := 86400

end Instant

/-- A point in time. -/
structure Instant where
  /-- The date in universal time. -/
  date : Date
  /-- The second of the day. -/
  second : Nat
  /-- The nanoseconds since that second began; more than a second of them in a leap second. -/
  nano : Nat
  second_lt : second < Instant.secondsPerDay
  /-- There is at most one leap second at a time. -/
  nano_lt : nano < 2 * Instant.nanosPerSecond
  /-- A leap second comes at the end of a minute. -/
  leap_at_end : Instant.nanosPerSecond ≤ nano → second % 60 = 59
deriving DecidableEq

namespace Instant

/-- The instant with these parts, if there is one. -/
def ofParts? (date : Date) (second nano : Nat) : Option Instant :=
  if h : second < secondsPerDay ∧ nano < 2 * nanosPerSecond ∧
      (nanosPerSecond ≤ nano → second % 60 = 59) then
    some ⟨date, second, nano, h.1, h.2.1, h.2.2⟩
  else none

/-- The start of the year 1970, the first instant of common clocks. -/
def epoch : Instant where
  date := ⟨1970, 1, 1, by decide⟩
  second := 0
  nano := 0
  second_lt := by decide
  nano_lt := by decide
  leap_at_end := by decide

instance : Inhabited Instant := ⟨epoch⟩

/-- Instants in their order, as numbers with gaps between them. -/
def rank (i : Instant) : Int :=
  (i.date.rank * secondsPerDay + i.second) * (2 * nanosPerSecond) + i.nano

/-- Whether an instant is not after another one. -/
def notAfter (a b : Instant) : Bool := a.rank ≤ b.rank

theorem notAfter_trans {a b c : Instant} (h : a.notAfter b) (k : b.notAfter c) : a.notAfter c := by
  simp only [notAfter, decide_eq_true_eq] at *
  omega

theorem notAfter_total (a b : Instant) : (a.notAfter b || b.notAfter a) = true := by
  simp only [notAfter, Bool.or_eq_true, decide_eq_true_eq]
  omega

/-! ## Written form -/

/-- A year: four digits, and a sign before the years that need more or lie before year 0. -/
def yearChars (year : Int) : List Char :=
  if 0 ≤ year ∧ year ≤ 9999 then Text.digitsWidth 4 year.toNat
  else (if year < 0 then '-' else '+') :: Text.digitsWidth 4 year.natAbs

/-- The fraction of a second: none, or the fewest of three, six or nine digits. -/
def fractionChars (nano : Nat) : List Char :=
  if nano = 0 then []
  else if nano % 1000000 = 0 then '.' :: Text.digitsWidth 3 (nano / 1000000)
  else if nano % 1000 = 0 then '.' :: Text.digitsWidth 6 (nano / 1000)
  else '.' :: Text.digitsWidth 9 nano

/-- The number that is written for the seconds: 60 in a leap second. -/
def shownSecond (i : Instant) : Nat := i.second % 60 + i.nano / nanosPerSecond

/-- An instant as year, month, day, `T`, hour, minute, second with its fraction, and `Z`. -/
def chars (i : Instant) : List Char :=
  yearChars i.date.year ++ '-' :: Text.digitsWidth 2 i.date.month ++
    '-' :: Text.digitsWidth 2 i.date.day ++ 'T' :: Text.digitsWidth 2 (i.second / 3600) ++
    ':' :: Text.digitsWidth 2 (i.second / 60 % 60) ++ ':' :: Text.digitsWidth 2 i.shownSecond ++
    fractionChars (i.nano % nanosPerSecond) ++ ['Z']

/-- The written form of an instant. -/
def text (i : Instant) : String := String.ofList i.chars

end Instant

end PaymentPlans
