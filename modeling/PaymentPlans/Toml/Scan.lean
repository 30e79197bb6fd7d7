/-
# Scanning TOML

The parts of a TOML text that carry no value: gaps, ends of lines, and comments.  A scanner takes
what it is for from the front of a text and gives back the rest; a text that is no TOML is
refused without a reason.
-/

namespace PaymentPlans.Toml

/-- A scanner of the front of a text, which gives back what it has not taken. -/
abbrev Scan (α : Type) := List Char → Option (α × List Char)

/-- Takes the given character. -/
def scanChar (expected : Char) : Scan Unit
  | [] => none
  | c :: cs => if c = expected then some ((), cs) else none

/-- Whether a character may stand between the parts of a line. -/
def isGap (c : Char) : Bool := c == ' ' || c == '\t'

/-- Leaves out the gap at the front. -/
def skipGap (cs : List Char) : List Char := cs.dropWhile isGap

/-- Whether a character may stand in a comment or, as itself, in a string: every one but the
controls, of which the tab is allowed. -/
def isShown (c : Char) : Bool := c == '\t' || (0x20 ≤ c.toNat && c.toNat != 0x7F)

/-- Takes the end of a line. -/
def scanNewline : Scan Unit
  | '\n' :: cs => some ((), cs)
  | '\r' :: '\n' :: cs => some ((), cs)
  | _ => none

/-- Leaves out the comment at the front, up to the end of its line. -/
def skipComment : List Char → List Char
  | '#' :: cs => cs.dropWhile isShown
  | cs => cs

/-- Takes what may stand behind a statement: a gap, a comment, and the end of the line or of the
text. -/
def scanLineEnd : Scan Unit := fun cs =>
  match skipComment (skipGap cs) with
  | [] => some ((), [])
  | rest => scanNewline rest

/-- Leaves out gaps and ends of lines. -/
def skipLines : List Char → List Char
  | '\r' :: '\n' :: cs => skipLines cs
  | c :: cs => if isGap c || c == '\n' then skipLines cs else c :: cs
  | [] => []

/-- Leaves out gaps, ends of lines, and comments that end with their line. -/
def skipLayoutFuel : Nat → List Char → List Char
  | 0, cs => cs
  | fuel + 1, cs =>
    match scanNewline (skipComment (skipGap cs)) with
    | some ((), rest) => skipLayoutFuel fuel rest
    | none => skipGap cs

/-- Leaves out gaps, ends of lines, and comments that end with their line. -/
def skipLayout (cs : List Char) : List Char := skipLayoutFuel (cs.length + 1) cs

end PaymentPlans.Toml
