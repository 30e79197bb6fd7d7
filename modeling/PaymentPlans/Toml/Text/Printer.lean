/-
# Writing strings of TOML

A string is written in the plainest way that its characters allow: between double quotes, else
between single ones, else between three double quotes, else between three single ones, and only
if none of these holds it as it is, with escapes.
-/
import PaymentPlans.Toml.Text.Reader

namespace PaymentPlans.Toml

/-- The longest run of a character in a text. -/
def longestRun (c : Char) : List Char → Nat
  | [] => 0
  | d :: ds => max ((d :: ds).takeWhile (· == c)).length (longestRun c ds)

/-- A character that can only be written with an escape: the controls, but for tabs and ends of
lines. -/
def needsEscape (c : Char) : Bool := !isShown c && c != '\n'

/-- A way to write a string. -/
structure Style where
  /-- The quotes that it stands between. -/
  quote : Quote
  /-- Whether there are three of them on either side. -/
  isLong : Bool
deriving DecidableEq, Repr

/-- Whether a text can be written in a style, as it is. -/
def Style.holds (style : Style) (cs : List Char) : Bool :=
  let controlled := cs.any needsEscape || (style.quote == .double && cs.contains '\\')
  let broken := !style.isLong && cs.contains '\n'
  !controlled && !broken && longestRun style.quote.char cs ≤ (if style.isLong then 2 else 0)

/-- The style of a text: the first that holds it as it is, and if there is none, double quotes
with escapes. -/
def Style.of (cs : List Char) : Style :=
  let styles : List Style :=
    [⟨.double, false⟩, ⟨.single, false⟩, ⟨.double, true⟩, ⟨.single, true⟩]
  (styles.find? fun style => style.holds cs).getD ⟨.double, cs.contains '\n'⟩

/-- The hexadecimal digits of a control. -/
def fourDigits (n : Nat) : List Char :=
  [n / 4096 % 16, n / 256 % 16, n / 16 % 16, n % 16].map fun d => (Nat.digitChar d).toUpper

/-- A character as it stands between double quotes; an end of line stays as it is if there are
three of them. -/
def escapeChar (isLong : Bool) (c : Char) : List Char :=
  if c = '\\' then ['\\', '\\']
  else if c = '\x08' then ['\\', 'b']
  else if c = '\t' then ['\\', 't']
  else if c = '\n' then if isLong then ['\n'] else ['\\', 'n']
  else if c = '\x0c' then ['\\', 'f']
  else if c = '\r' then ['\\', 'r']
  else if isShown c then [c]
  else '\\' :: 'u' :: fourDigits c.toNat

/-- The characters between double quotes.  Of the quotes in them, `allowed` in a row stay as they
are, and the next one is escaped; `seen` counts those that stand before. -/
def escapeChars (isLong : Bool) (allowed : Nat) : (seen : Nat) → List Char → List Char
  | _, [] => []
  | seen, c :: cs =>
    if c = '"' then
      if seen < allowed then c :: escapeChars isLong allowed (seen + 1) cs
      else '\\' :: c :: escapeChars isLong allowed 0 cs
    else escapeChar isLong c ++ escapeChars isLong allowed 0 cs

/-- A text in a style.  Between three quotes it starts on a line of its own if it has more than
one line. -/
def Style.write (style : Style) (cs : List Char) : List Char :=
  let marks := List.replicate (if style.isLong then 3 else 1) style.quote.char
  let start := if style.isLong && cs.contains '\n' then ['\n'] else []
  let body := match style.quote with
    | .double => escapeChars style.isLong (if style.isLong then 2 else 0) 0 cs
    | .single => cs
  marks ++ start ++ body ++ marks

/-- A string in the style that fits it. -/
def writeString (s : String) : List Char := (Style.of s.toList).write s.toList

end PaymentPlans.Toml
