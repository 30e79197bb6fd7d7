/-
# Blank characters and trimming

The characters that Unicode gives the property `White_Space`, and the text that is left when
they are taken off both ends.  Whatever a user types by hand — an amount, an identifier — is
trimmed in this sense before it is read.
-/

namespace PaymentPlans.Text

/-- The characters with the Unicode property `White_Space`. -/
def isBlank (c : Char) : Bool :=
  let n := c.toNat
  (0x9 ≤ n && n ≤ 0xD) || n == 0x20 || n == 0x85 || n == 0xA0 || n == 0x1680 ||
    (0x2000 ≤ n && n ≤ 0x200A) || n == 0x2028 || n == 0x2029 || n == 0x202F || n == 0x205F ||
    n == 0x3000

/-- The text without the blanks at its end. -/
def trimEnd (cs : List Char) : List Char := (cs.reverse.dropWhile isBlank).reverse

/-- The text without the blanks at either end. -/
def trim (cs : List Char) : List Char := trimEnd (cs.dropWhile isBlank)

/-- Every character that is blank to the core library is blank. -/
theorem isBlank_of_isWhitespace {c : Char} (h : c.isWhitespace = true) : isBlank c = true := by
  simp only [Char.isWhitespace, Bool.or_eq_true, decide_eq_true_eq] at h
  rcases h with ((rfl | rfl) | rfl) | rfl <;> rfl

/-- A text that neither starts nor ends with a blank is its own trimmed form. -/
theorem trim_eq_self {cs : List Char} (first : ∀ c, cs.head? = some c → isBlank c = false)
    (last : ∀ c, cs.getLast? = some c → isBlank c = false) : trim cs = cs := by
  have front : cs.dropWhile isBlank = cs := by
    cases cs with
    | nil => rfl
    | cons c cs => simp [first c rfl]
  have back : cs.reverse.dropWhile isBlank = cs.reverse := by
    rcases h : cs.reverse with _ | ⟨c, rest⟩
    · rfl
    · have : cs.getLast? = some c := by rw [← List.head?_reverse, h]; rfl
      simp [last c this]
  rw [trim, front, trimEnd, back, List.reverse_reverse]

end PaymentPlans.Text
