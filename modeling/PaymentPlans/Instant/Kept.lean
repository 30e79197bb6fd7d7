/-
# Instants as a database keeps them

A database counts whole microseconds from the start of the year 2000, without leap seconds.
What is finer is cut off towards that start: downwards after it, upwards before it.
-/
import PaymentPlans.Instant.Basic

namespace PaymentPlans.Instant

/-- The last microsecond of the calendar. -/
def latest : Instant where
  date := ⟨262142, 12, 31, by decide⟩
  second := 86399
  nano := 999999000
  second_lt := by decide
  nano_lt := by decide
  leap_at_end := by decide

/-- The instant so many nanoseconds after a second that began on this date, if the calendar goes
that far.  Leap seconds are counted into the minute after. -/
def carry? (date : Date) (second nano : Nat) : Option Instant :=
  let whole := second + nano / nanosPerSecond
  let date? := if whole < secondsPerDay then some date else date.next?
  date?.bind fun date => ofParts? date (whole % secondsPerDay) (nano % nanosPerSecond)

/-- Whole microseconds, in nanoseconds: towards the start of the year 2000. -/
def wholeMicroseconds (year : Int) (nano : Nat) : Nat :=
  if year < 2000 then (nano + 999) / 1000 * 1000 else nano / 1000 * 1000

/-- The instant that a database gives back when it was given this one. -/
def kept (i : Instant) : Instant :=
  ((carry? i.date i.second i.nano).bind fun j =>
    carry? j.date j.second (wholeMicroseconds j.date.year j.nano)).getD latest

end PaymentPlans.Instant
