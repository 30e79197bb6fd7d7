/-
# Reading numbers of TOML

Whole numbers with a sign or in base 2, 8 or 16, that fit into 64 bits; numbers with a fraction
or a power of ten, that do not round to infinity; and the words for infinity and for what is no
number.  An underscore may stand between two digits.
-/
import PaymentPlans.Text.Numeral
import PaymentPlans.Toml.Text.Reader
import PaymentPlans.Toml.Value

namespace PaymentPlans.Toml

/-- Takes digits, each of which may have an underscore before it. -/
def scanMore (isDigit : Char → Bool) : List Char → List Char × List Char
  | '_' :: c :: cs =>
    if isDigit c then
      let (ds, rest) := scanMore isDigit cs
      (c :: ds, rest)
    else ([], '_' :: c :: cs)
  | c :: cs =>
    if isDigit c then
      let (ds, rest) := scanMore isDigit cs
      (c :: ds, rest)
    else ([], c :: cs)
  | [] => ([], [])

/-- Takes one or more digits, with underscores between them. -/
def scanDigits (isDigit : Char → Bool) : Scan (List Char)
  | [] => none
  | c :: cs =>
    if isDigit c then
      let (ds, rest) := scanMore isDigit cs
      some (c :: ds, rest)
    else none

/-- Takes a number without sign in base ten.  A zero in front stands alone. -/
def scanWhole : Scan (List Char)
  | '0' :: cs => some (['0'], cs)
  | cs => scanDigits Char.isDigit cs

/-- The largest whole number. -/
def maxInteger : Int := 0x7fffffffffffffff

/-- The least whole number. -/
def minInteger : Int := -0x8000000000000000

/-- The whole number as a value, if it is neither too large nor too small. -/
def integer? (n : Int) : Option Value :=
  if minInteger ≤ n ∧ n ≤ maxInteger then some (.integer n) else none

/-- Takes a whole number in another base, behind the mark of the base. -/
def scanBase (base : Nat) : Scan Value := fun cs => do
  let fits (c : Char) : Bool := (hexDigit? c).any (· < base)
  let (ds, cs) ← scanDigits fits cs
  let n := (ds.filterMap hexDigit?).foldl (fun n d => n * base + d) 0
  return (← integer? n, cs)

/-- Takes the digits behind a point, if there is one. -/
def scanPlaces : Scan (Option (List Char))
  | '.' :: cs => (scanDigits Char.isDigit cs).map fun (ds, rest) => (some ds, rest)
  | cs => some (none, cs)

/-- Takes a power of ten, if there is one. -/
def scanPower : Scan (Option Int)
  | [] => some (none, [])
  | c :: cs =>
    if c = 'e' ∨ c = 'E' then
      let (negative, cs) := match cs with
        | '+' :: cs => (false, cs)
        | '-' :: cs => (true, cs)
        | cs => (false, cs)
      (scanDigits Char.isDigit cs).map fun (ds, rest) =>
        let n : Int := Text.ofDigits ds
        (some (if negative then -n else n), rest)
    else some (none, c :: cs)

/-- Takes a number in base ten behind its sign. -/
def scanDecimal (negative : Bool) : Scan Value := fun cs => do
  let (whole, cs) ← scanWhole cs
  let (places, cs) ← scanPlaces cs
  let (power, cs) ← scanPower cs
  if places.isNone && power.isNone then
    let n : Int := Text.ofDigits whole
    return (← integer? (if negative then -n else n), cs)
  else
    let fraction := places.getD []
    let numeral : Text.Numeral :=
      ⟨Text.ofDigits (whole ++ fraction), power.getD 0 - fraction.length⟩
    if numeral.isTooLarge && !negative then none else return (.float, cs)

/-- Takes the word for infinity, or the one for what is no number. -/
def scanSpecial : Scan Value
  | 'i' :: 'n' :: 'f' :: cs => some (.float, cs)
  | 'n' :: 'a' :: 'n' :: cs => some (.float, cs)
  | _ => none

/-- Takes a number. -/
def scanNumeral : Scan Value
  | '0' :: 'x' :: cs => scanBase 16 cs
  | '0' :: 'o' :: cs => scanBase 8 cs
  | '0' :: 'b' :: cs => scanBase 2 cs
  | '+' :: cs => (scanDecimal false cs).or (scanSpecial cs)
  | '-' :: cs => (scanDecimal true cs).or (scanSpecial cs)
  | cs => (scanDecimal false cs).or (scanSpecial cs)

end PaymentPlans.Toml
