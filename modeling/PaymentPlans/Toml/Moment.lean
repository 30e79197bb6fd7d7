/-
# Dates and times of TOML

A moment is a day, a time of day, or both, and in the last case it may say how far its clock is
ahead of universal time.  A moment is written in one way only: the letter `T` between day and
time, no more digits of the second than it needs.
-/
import PaymentPlans.Date
import PaymentPlans.Text.Digits
import PaymentPlans.Toml.Scan

namespace PaymentPlans.Toml

open Text (digitsWidth)

/-- A day of the calendar. -/
structure Day where
  year : Nat
  month : Nat
  day : Nat
deriving DecidableEq, Repr

/-- A time of day. -/
structure Clock where
  hour : Nat
  minute : Nat
  /-- The second, 60 in a leap second. -/
  second : Nat
  nano : Nat
deriving DecidableEq, Repr

/-- How far a clock is ahead of universal time. -/
inductive Zone where
  /-- It shows universal time. -/
  | universal
  /-- It is ahead by some minutes. -/
  | ahead (minutes : Int)
deriving DecidableEq, Repr

/-- A date, a time, or both. -/
inductive Moment where
  | day (d : Day)
  /-- A time of any day. -/
  | clock (c : Clock)
  /-- A time of a day, on a clock that may be known to be ahead. -/
  | both (d : Day) (c : Clock) (zone : Option Zone)
deriving DecidableEq, Repr

/-! ## Writing -/

/-- The characters of a day. -/
def Day.chars (d : Day) : List Char :=
  digitsWidth 4 d.year ++ '-' :: (digitsWidth 2 d.month ++ '-' :: digitsWidth 2 d.day)

/-- The fraction of a second, without zeros at its end; nothing for none. -/
def fractionChars (nano : Nat) : List Char :=
  if nano = 0 then []
  else '.' :: ((digitsWidth 9 nano).reverse.dropWhile (· == '0')).reverse

/-- The characters of a time. -/
def Clock.chars (c : Clock) : List Char :=
  digitsWidth 2 c.hour ++ ':' :: (digitsWidth 2 c.minute ++ ':' :: (digitsWidth 2 c.second ++
    fractionChars c.nano))

/-- The characters of a zone. -/
def Zone.chars : Zone → List Char
  | universal => ['Z']
  | ahead minutes =>
    (if minutes < 0 then '-' else '+') ::
      (digitsWidth 2 (minutes.natAbs / 60) ++ ':' :: digitsWidth 2 (minutes.natAbs % 60))

/-- The characters of a moment. -/
def Moment.chars : Moment → List Char
  | day d => d.chars
  | clock c => c.chars
  | both d c zone => d.chars ++ 'T' :: (c.chars ++ zone.elim [] Zone.chars)

/-- The text of a moment. -/
def Moment.text (m : Moment) : String := String.ofList m.chars

/-! ## Reading -/

/-- How large the numbers of a moment may be. -/
structure Limits where
  hour : Nat
  /-- The most hours that a clock may be ahead or behind. -/
  zoneHours : Nat
  /-- The most minutes beside these hours. -/
  zoneMinutes : Nat

/-- The limits of a moment that is written as such. -/
def Limits.strict : Limits := ⟨23, 23, 59⟩

/-- The limits of a moment that is given as a string. -/
def Limits.lax : Limits := ⟨24, 99, 99⟩

/-- The most minutes in all that a clock may be ahead or behind. -/
def zoneLimit : Nat := 24 * 60

/-- Takes a number of some digits, between two bounds. -/
def scanNumber (count low high : Nat) : Scan Nat := fun cs =>
  let ds := cs.take count
  let n := Text.ofDigits ds
  if ds.length = count ∧ ds.all Char.isDigit ∧ low ≤ n ∧ n ≤ high then some (n, cs.drop count)
  else none

/-- Takes a day that the calendar has. -/
def scanDay : Scan Day := fun cs => do
  let (year, cs) ← scanNumber 4 0 9999 cs
  let ((), cs) ← scanChar '-' cs
  let (month, cs) ← scanNumber 2 1 12 cs
  let ((), cs) ← scanChar '-' cs
  let (day, cs) ← scanNumber 2 1 (Date.daysInMonth year month) cs
  return (⟨year, month, day⟩, cs)

/-- Takes the fraction of a second, if there is one: the first nine digits count. -/
def scanFraction : Scan Nat
  | '.' :: cs =>
    let ds := cs.takeWhile Char.isDigit
    let kept := ds.take 9
    if ds.isEmpty then none
    else some (Text.ofDigits kept * Nat.pow 10 (9 - kept.length), cs.drop ds.length)
  | cs => some (0, cs)

/-- Takes a time. -/
def scanClock (limits : Limits) : Scan Clock := fun cs => do
  let (hour, cs) ← scanNumber 2 0 limits.hour cs
  let ((), cs) ← scanChar ':' cs
  let (minute, cs) ← scanNumber 2 0 59 cs
  let ((), cs) ← scanChar ':' cs
  let (second, cs) ← scanNumber 2 0 60 cs
  let (nano, cs) ← scanFraction cs
  return (⟨hour, minute, second, nano⟩, cs)

/-- Takes a zone, if there is one. -/
def scanZone (limits : Limits) : Scan (Option Zone)
  | [] => some (none, [])
  | c :: cs =>
    if c = 'Z' ∨ c = 'z' then some (some .universal, cs)
    else if c = '+' ∨ c = '-' then do
      let (hours, cs) ← scanNumber 2 0 limits.zoneHours cs
      let ((), cs) ← scanChar ':' cs
      let (minutes, cs) ← scanNumber 2 0 limits.zoneMinutes cs
      let size := hours * 60 + minutes
      if size ≤ zoneLimit then return (some (.ahead (if c = '+' then size else -size)), cs)
      else none
    else some (none, c :: cs)

/-- Whether a character may stand between day and time. -/
def isSeparator (c : Char) : Bool := c == 'T' || c == 't' || c == ' '

/-- Takes a time behind a separator. -/
def scanTimeOfDay (limits : Limits) : Scan Clock
  | [] => none
  | c :: cs => if isSeparator c then scanClock limits cs else none

/-- Takes a moment.  A day stands alone if no time follows it. -/
def scanMoment (limits : Limits) : Scan Moment := fun cs =>
  match scanDay cs with
  | none => (scanClock limits cs).map fun (c, rest) => (.clock c, rest)
  | some (d, cs) =>
    match scanTimeOfDay limits cs with
    | none => some (.day d, cs)
    | some (c, cs) => (scanZone limits cs).map fun (zone, rest) => (.both d c zone, rest)

/-- The moment that a string gives. -/
def Moment.ofText? (text : String) : Option Moment :=
  match scanMoment .lax text.toList with
  | some (m, []) => some m
  | _ => none

end PaymentPlans.Toml
