/-
# Reading amounts

A typed amount is an optional sign, digits with at most one point among them, and separators
`_` behind a digit.  Digits that no longer fit before the point are an error.  Behind the point
the first digit that does not fit rounds the digits before it, five and above upwards, and the
digits after it are only checked.  A text that is no such numeral may still be one with an
exponent, `12.5e-3`.  A numeral of the value zero has no sign, but a number that its exponent
makes too small to show keeps the one it had.
-/
import PaymentPlans.Amount.Basic
import PaymentPlans.Text.Blank

namespace PaymentPlans.Amount

/-- Why a text is not an amount. -/
inductive Fault where
  | empty
  /-- A character that no numeral has, or has there. -/
  | unknownCharacter
  | twoPoints
  /-- A separator before the first digit. -/
  | leadingSeparator
  | noDigits
  /-- The digits before the point do not fit. -/
  | tooManyDigits
  /-- The digits fit, but not the number that they round up to. -/
  | roundingOverflow
  /-- The exponent is not a number below 2³². -/
  | unreadableExponent
  /-- The exponent is beyond the places that an amount can have. -/
  | tooManyPlaces (exponent : Nat)
  /-- The number that the exponent makes does not fit. -/
  | tooLarge
deriving DecidableEq, Repr

/-- The wording of a fault. -/
def Fault.message : Fault → String
  | empty => "Invalid decimal: empty"
  | unknownCharacter => "Invalid decimal: unknown character"
  | twoPoints => "Invalid decimal: two decimal points"
  | leadingSeparator => "Invalid decimal: must start lead with a number"
  | noDigits => "Invalid decimal: no digits found"
  | tooManyDigits => "Invalid decimal: overflow from too many digits"
  | roundingOverflow => "Invalid decimal: overflow from mantissa after rounding"
  | unreadableExponent => "Failed to parse"
  | tooManyPlaces exponent =>
      "Scale exceeds the maximum precision allowed: " ++ toString exponent ++ " > 28"
  | tooLarge => "Number exceeds maximum value that can be represented."

/-- The fault of a character that has no place where it stands. -/
def stray (c : Char) : Fault :=
  if c = '.' then .twoPoints else if c = '_' then .leadingSeparator else .unknownCharacter

/-- Behind the digits that count only digits and separators may follow. -/
def checkRest : List Char → Except Fault Unit
  | [] => .ok ()
  | c :: cs => if c.isDigit || c == '_' then checkRest cs else .error (stray c)

/-- The digits before the last one, when they stay below this number, let a separator directly
behind the 28th place end the number: no digit after it rounds. -/
def shortLimit : Nat := 1844674407370954906

/-- Whether a separator that comes next ends the number. -/
def endsAtSeparator (m : Magnitude) : Bool := m.places == maxPlaces && m.units / 10 < shortLimit

/-- Rounds on the first digit that does not fit. -/
def roundOn (m : Magnitude) (digit : Nat) : Except Fault Magnitude :=
  if digit < 5 then .ok m
  else match m.bump? with
    | some next => .ok next
    | none => .error .roundingOverflow

/-- Reads what stands behind the point; `seen` tells whether there was a digit already. -/
def readFraction (m : Magnitude) (seen : Bool) : List Char → Except Fault Magnitude
  | [] => if seen then .ok m else .error .noDigits
  | c :: cs =>
    match Text.digit? c with
    | some d =>
      match m.pushPlace? d with
      | some next => readFraction next true cs
      | none => roundOn m d >>= fun rounded => (checkRest cs).map fun _ => rounded
    | none =>
      if c == '_' && seen then
        if endsAtSeparator m then checkRest cs >>= fun _ => .ok m else readFraction m seen cs
      else .error (stray c)

/-- Reads the digits before the point, and then what stands behind it. -/
def readWhole (m : Magnitude) (seen : Bool) : List Char → Except Fault Magnitude
  | [] => if seen then .ok m else .error .noDigits
  | c :: cs =>
    match Text.digit? c with
    | some d =>
      match m.pushWhole? d with
      | some next => readWhole next true cs
      | none => .error .tooManyDigits
    | none =>
      if c == '.' then readFraction m seen cs
      else if c == '_' && seen then readWhole m seen cs
      else .error (stray c)

/-- Reads a numeral without exponent. -/
def readPlain : List Char → Except Fault Amount
  | [] => .error .empty
  | '-' :: cs => (readWhole .zero false cs).map (ofMagnitude true)
  | '+' :: cs => (readWhole .zero false cs).map (ofMagnitude false)
  | cs => (readWhole .zero false cs).map (ofMagnitude false)

/-- Reads the digits of an exponent, a number below 2³² with a sign `+` or none. -/
def readExponent (cs : List Char) : Except Fault Nat :=
  let ds := match cs with
    | '+' :: ds => ds
    | ds => ds
  if ds.isEmpty || !ds.all Char.isDigit || 1 <<< 32 ≤ Text.ofDigits ds then
    .error .unreadableExponent
  else .ok (Text.ofDigits ds)

/-- Divides by a power of ten and rounds to the nearest number, a half upwards. -/
def divideRounding (units places : Nat) : Nat :=
  let unit := Nat.pow 10 places
  (units + unit / 2) / unit

/-- The magnitude with these parts, which are known to fit unless the number is too large. -/
def checkSize (units places : Nat) : Except Fault Magnitude :=
  match Magnitude.ofParts? units places with
  | some m => .ok m
  | none => .error .tooLarge

/-- Moves the point to the left.  Digits that would stand behind the 28th place are rounded. -/
def shiftLeft (m : Magnitude) (exponent : Nat) : Except Fault Magnitude :=
  if maxPlaces < exponent then .error (.tooManyPlaces exponent)
  else if maxPlaces < m.places + exponent then
    checkSize (divideRounding m.units (m.places + exponent - maxPlaces)) maxPlaces
  else checkSize m.units (m.places + exponent)

/-- Moves the point to the right: over the places while there are some, and past them by zeros
before the point. -/
def shiftRight (m : Magnitude) (exponent : Nat) : Except Fault Magnitude :=
  if exponent ≤ m.places then checkSize m.units (m.places - exponent)
  else if maxPlaces < exponent then .error (.tooManyPlaces exponent)
  else checkSize (m.units * Nat.pow 10 (exponent - m.places)) 0

/-- Reads a numeral with an exponent, given what stands before and behind the letter.  Moving the
point leaves the sign as it is, also when all digits are rounded away. -/
def readScientific (base exponent : List Char) : Except Fault Amount := do
  let a ← readPlain base
  let m ← match exponent with
    | '-' :: ds => readExponent ds >>= shiftLeft a.magnitude
    | ds => readExponent ds >>= shiftRight a.magnitude
  return { a with magnitude := m }

/-- Whether a character starts an exponent. -/
def isExponentMark (c : Char) : Bool := c == 'e' || c == 'E'

/-- Reads an amount from a text without blanks around it. -/
def readTrimmed (cs : List Char) : Except Fault Amount :=
  match readPlain cs, cs.dropWhile (!isExponentMark ·) with
  | .ok a, _ => .ok a
  | .error fault, [] => .error fault
  | .error _, _ :: exponent => readScientific (cs.takeWhile (!isExponentMark ·)) exponent

/-- Reads an amount as a user types it, with blanks around it if need be. -/
def ofText (text : String) : Except Fault Amount := readTrimmed (Text.trim text.toList)

end PaymentPlans.Amount
