/-
# Reading instants

Two forms are read.  The exact form is what RFC 3339 asks for: four digits of the year, two of
everything else, an offset of less than a day.  The loose form also takes blanks between the
parts, shorter numbers, long years behind a sign, the offset `UTC`, and an offset without colon.
Both give the instant in universal time.
-/
import PaymentPlans.Instant.Basic
import PaymentPlans.Text.Blank
import PaymentPlans.Text.Bytes

namespace PaymentPlans.Instant

open Text (byteCount)

/-- Why a text is not an instant. -/
inductive Fault where
  | invalid
  | tooShort
  /-- A number that is no year, month, hour, offset and so on, or a day that the month lacks. -/
  | outOfRange
  /-- Something follows the instant. -/
  | tooLong
  /-- The offset leads out of the calendar. -/
  | impossible
deriving DecidableEq, Repr

/-- The wording of a fault. -/
def Fault.message : Fault → String
  | invalid => "input contains invalid characters"
  | tooShort => "premature end of input"
  | outOfRange => "input is out of range"
  | tooLong => "trailing input"
  | impossible => "no possible date and time matching input"

/-! ## Parts of an instant -/

/-- A reader of the front of a text, which gives back what it has not read. -/
abbrev Scan (α : Type) := List Char → Except Fault (α × List Char)

/-- Takes the given character. -/
def scanChar (expected : Char) : Scan Unit
  | [] => .error .tooShort
  | c :: cs => if c = expected then .ok ((), cs) else .error .invalid

/-- Takes a number of `least` to `most` digits. -/
def scanNumber (least most : Nat) : Scan Nat := fun cs =>
  let ds := (cs.take most).takeWhile Char.isDigit
  if byteCount cs < least then .error .tooShort
  else if ds.length < least then .error .invalid
  else if 1 <<< 63 ≤ Text.ofDigits ds then .error .outOfRange
  else .ok (Text.ofDigits ds, cs.drop ds.length)

/-- Takes a number between two bounds. -/
def scanBetween (low high least most : Nat) : Scan Nat := fun cs => do
  let (n, cs) ← scanNumber least most cs
  if low ≤ n ∧ n ≤ high then return (n, cs) else throw .outOfRange

/-- Takes the letter or the blank between date and time. -/
def scanSeparator : Scan Unit
  | [] => .error .tooShort
  | c :: cs => if c = 't' ∨ c = 'T' ∨ c = ' ' then .ok ((), cs) else .error .invalid

/-- Takes the fraction of a second, if there is one: the first nine digits count. -/
def scanFraction : Scan Nat
  | '.' :: cs => do
    let (n, rest) ← scanNumber 1 9 cs
    let places := cs.length - rest.length
    return (n * Nat.pow 10 (9 - places), rest.dropWhile Char.isDigit)
  | cs => .ok (0, cs)

/-- Takes the two digits of the hours or minutes of an offset. -/
def scanPair : Scan (Char × Char) := fun cs =>
  if byteCount cs < 2 then .error .tooShort
  else match cs with
    | a :: b :: rest => if a.isDigit && b.isDigit then .ok ((a, b), rest) else .error .invalid
    | _ => .error .invalid

/-- The number that two digits write. -/
def pairValue (pair : Char × Char) : Nat := Text.ofDigits [pair.1, pair.2]

/-- Takes an offset from universal time, in minutes: `Z`, or a sign with hours and minutes, and
between these what `scanColon` takes. -/
def scanOffset (scanColon : Scan Unit) : Scan Int
  | [] => .error .tooShort
  | c :: cs =>
    if c = 'Z' ∨ c = 'z' then .ok (0, cs)
    else if c = '+' ∨ c = '-' ∨ c = '\u2212' then do
      let (hours, cs) ← scanPair cs
      let ((), cs) ← scanColon cs
      let (minutes, cs) ← scanPair cs
      if 60 ≤ pairValue minutes then throw .outOfRange
      let size : Int := pairValue hours * 60 + pairValue minutes
      return (if c = '+' then size else -size, cs)
    else .error .invalid

/-! ## The instant of its parts -/

/-- What is written down of an instant: a reading of clock and calendar, and how many minutes
they are ahead of universal time. -/
structure Reading where
  year : Int
  month : Nat
  day : Nat
  hour : Nat
  minute : Nat
  /-- The second that is shown, 60 in a leap second. -/
  second : Nat
  nano : Nat
  /-- The minutes by which clock and calendar are ahead. -/
  offset : Int
deriving DecidableEq, Repr

/-- The instant that a reading shows. -/
def ofReading (r : Reading) : Except Fault Instant := do
  let some date := Date.ofParts? r.year r.month r.day | throw .outOfRange
  if 1440 ≤ r.offset.natAbs then throw .outOfRange
  let leap := r.second / 60
  let local' : Int := r.hour * 3600 + r.minute * 60 + (r.second - leap : Nat) - r.offset * 60
  let moved := if local' < 0 then date.prev?
    else if local' < secondsPerDay then some date
    else date.next?
  let some date := moved | throw .impossible
  match ofParts? date (local' % secondsPerDay).toNat (r.nano + leap * nanosPerSecond) with
  | some instant => return instant
  | none => throw .outOfRange

/-! ## The exact form -/

/-- How many bytes an instant has in the exact form, its fraction and its offset left out. -/
def leastBytes : Nat := 19

/-- Takes an instant in the exact form.  A text that is too short for one is not looked at; the
date is settled before the time, and the time before the offset. -/
def scanExact : Scan Reading := fun cs => do
  if byteCount cs < leastBytes then throw .tooShort
  let (year, cs) ← scanNumber 4 4 cs
  let ((), cs) ← scanChar '-' cs
  let (month, cs) ← scanNumber 2 2 cs
  let ((), cs) ← scanChar '-' cs
  let (day, cs) ← scanNumber 2 2 cs
  if Date.ofParts? year month day = none then throw .outOfRange
  let ((), cs) ← scanSeparator cs
  let (hour, cs) ← scanNumber 2 2 cs
  let ((), cs) ← scanChar ':' cs
  let (minute, cs) ← scanNumber 2 2 cs
  let ((), cs) ← scanChar ':' cs
  let (second, cs) ← scanNumber 2 2 cs
  let (nano, cs) ← scanFraction cs
  if 23 < hour ∨ 59 < minute ∨ 60 < second then throw .outOfRange
  let (offset, cs) ← scanOffset (scanChar ':') cs
  return (⟨year, month, day, hour, minute, second, nano, offset⟩, cs)

/-- Reads an instant in the exact form. -/
def ofExactText (text : String) : Except Fault Instant := do
  let (reading, rest) ← scanExact text.toList
  if rest ≠ [] then throw .tooLong
  ofReading reading

/-! ## The loose form -/

/-- Leaves out the blanks at the front. -/
def skipBlanks (cs : List Char) : List Char := cs.dropWhile Text.isBlank

/-- Takes a character with blanks before it. -/
def scanLooseChar (expected : Char) : Scan Unit := fun cs => scanChar expected (skipBlanks cs)

/-- Takes a number of one or two digits between two bounds, with blanks before it. -/
def scanLooseBetween (low high : Nat) : Scan Nat := fun cs =>
  scanBetween low high 1 2 (skipBlanks cs)

/-- Takes a year with blanks before it: up to four digits, or any number of them behind a
sign. -/
def scanLooseYear : Scan Int := fun cs => do
  let (year, cs) ← match skipBlanks cs with
    | '-' :: cs => (scanNumber 1 cs.length cs).map fun (n, cs) => (-(n : Int), cs)
    | '+' :: cs => (scanNumber 1 cs.length cs).map fun (n, cs) => ((n : Int), cs)
    | cs => (scanNumber 1 4 cs).map fun (n, cs) => ((n : Int), cs)
  if -2147483648 ≤ year ∧ year ≤ 2147483647 then return (year, cs) else throw .outOfRange

/-- Takes any colons and blanks. -/
def scanColons : Scan Unit := fun cs => .ok ((), cs.dropWhile fun c => c = ':' || Text.isBlank c)

/-- Takes an offset from universal time, or the letters `UTC`, with blanks before it. -/
def scanLooseOffset : Scan Int := fun cs =>
  let cs := skipBlanks cs
  if (cs.take 3).map Char.toUpper = ['U', 'T', 'C'] then .ok (0, cs.drop 3)
  else scanOffset scanColons cs

/-- Takes an instant in the loose form. -/
def scanLoose : Scan Reading := fun cs => do
  let (year, cs) ← scanLooseYear cs
  let ((), cs) ← scanLooseChar '-' cs
  let (month, cs) ← scanLooseBetween 1 12 cs
  let ((), cs) ← scanLooseChar '-' cs
  let (day, cs) ← scanLooseBetween 1 31 cs
  let ((), cs) ← scanSeparator cs
  let (hour, cs) ← scanLooseBetween 0 23 cs
  let ((), cs) ← scanLooseChar ':' cs
  let (minute, cs) ← scanLooseBetween 0 59 cs
  let ((), cs) ← scanLooseChar ':' cs
  let (second, cs) ← scanLooseBetween 0 60 cs
  let (nano, cs) ← scanFraction cs
  let (offset, cs) ← scanLooseOffset cs
  return (⟨year, month, day, hour, minute, second, nano, offset⟩, cs)

/-- Reads an instant in the loose form. -/
def ofLooseText (text : String) : Except Fault Instant := do
  let (reading, rest) ← scanLoose text.toList
  if skipBlanks rest ≠ [] then throw .tooLong
  ofReading reading

end PaymentPlans.Instant
