/-
# Calendar dates

Dates of the Gregorian calendar, extended to all years that an instant may fall into.  The only
steps that are needed are the ones to the next and to the previous day, for an offset of less
than a day never moves an instant further.
-/

namespace PaymentPlans

namespace Date

/-- The first year of the calendar. -/
def minYear : Int := -262143

/-- The last year of the calendar. -/
def maxYear : Int := 262142

/-- Whether a year has a 29th of February. -/
def isLeapYear (year : Int) : Bool := year % 4 = 0 && (year % 100 ≠ 0 || year % 400 = 0)

/-- The days of a month, none for a number that is no month. -/
def daysInMonth (year : Int) : Nat → Nat
  | 1 | 3 | 5 | 7 | 8 | 10 | 12 => 31
  | 4 | 6 | 9 | 11 => 30
  | 2 => if isLeapYear year then 29 else 28
  | _ => 0

/-- Year, month and day name a date of the calendar. -/
def IsDate (year : Int) (month day : Nat) : Prop :=
  (minYear ≤ year ∧ year ≤ maxYear) ∧ 1 ≤ day ∧ day ≤ daysInMonth year month

instance (year : Int) (month day : Nat) : Decidable (IsDate year month day) :=
  inferInstanceAs (Decidable (_ ∧ _))

end Date

/-- A date of the calendar. -/
structure Date where
  /-- The year, with a year 0 and years before it. -/
  year : Int
  /-- The month, from one. -/
  month : Nat
  /-- The day of the month, from one. -/
  day : Nat
  /-- There is such a date. -/
  isDate : Date.IsDate year month day
deriving DecidableEq

namespace Date

/-- The date with these parts, if there is one. -/
def ofParts? (year : Int) (month day : Nat) : Option Date :=
  if h : IsDate year month day then some ⟨year, month, day, h⟩ else none

/-- The day after, unless the calendar ends. -/
def next? (d : Date) : Option Date :=
  (ofParts? d.year d.month (d.day + 1)).or <|
    (ofParts? d.year (d.month + 1) 1).or (ofParts? (d.year + 1) 1 1)

/-- The day before, unless the calendar starts. -/
def prev? (d : Date) : Option Date :=
  if 1 < d.day then ofParts? d.year d.month (d.day - 1)
  else if 1 < d.month then ofParts? d.year (d.month - 1) (daysInMonth d.year (d.month - 1))
  else ofParts? (d.year - 1) 12 31

/-- Dates in their order, as numbers with gaps between them. -/
def rank (d : Date) : Int := (d.year * 13 + d.month) * 32 + d.day

end Date

end PaymentPlans
