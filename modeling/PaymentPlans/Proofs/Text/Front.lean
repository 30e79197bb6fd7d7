/-
# Taking from the front of a text

A scanner that takes characters of one kind takes a run of them as it was written, if what follows
the run is of another kind.
-/
import Mathlib.Tactic.Common
import PaymentPlans.Proofs.Text.Digits
import PaymentPlans.Text.Bytes

namespace PaymentPlans

@[simp] lemma ok_bind {ε α β : Type} (a : α) (f : α → Except ε β) : Except.ok a >>= f = f a := rfl

@[simp] lemma map_ok {ε α β : Type} (f : α → β) (a : α) :
    (Except.ok a : Except ε α).map f = .ok (f a) := rfl

namespace Text

/-- Characters of different kinds are different. -/
lemma ne_of_kind {p : Char → Bool} {c d : Char} (hc : p c) (hd : p d = false) : c ≠ d := by
  rintro rfl
  exact nomatch hd.symm.trans hc

/-- A text starts with a character of another kind, or it is empty. -/
def StopsAt (p : Char → Bool) (cs : List Char) : Prop := ∀ c ∈ cs.head?, p c = false

variable {p : Char → Bool} {run rest : List Char}

lemma stopsAt_nil : StopsAt p [] := nofun

lemma stopsAt_cons {c : Char} (h : p c = false) (cs : List Char) : StopsAt p (c :: cs) := by
  rintro _ ⟨⟩
  exact h

lemma StopsAt.take (h : StopsAt p rest) (n : Nat) : StopsAt p (rest.take n) := by
  intro c hc
  rw [List.head?_take] at hc
  split at hc
  · exact nomatch hc
  · exact h c hc

lemma takeWhile_eq_nil (h : StopsAt p rest) : rest.takeWhile p = [] := by
  cases rest with
  | nil => rfl
  | cons c cs => rw [List.takeWhile_cons_of_neg (by simp [h c rfl])]

lemma dropWhile_eq_self (h : StopsAt p rest) : rest.dropWhile p = rest := by
  cases rest with
  | nil => rfl
  | cons c cs => rw [List.dropWhile_cons_of_neg (by simp [h c rfl])]

lemma takeWhile_run (hrun : ∀ c ∈ run, p c) (hrest : StopsAt p rest) :
    (run ++ rest).takeWhile p = run := by
  rw [List.takeWhile_append_of_pos hrun, takeWhile_eq_nil hrest, List.append_nil]

lemma dropWhile_run (hrun : ∀ c ∈ run, p c) (hrest : StopsAt p rest) :
    (run ++ rest).dropWhile p = rest := by
  rw [List.dropWhile_append_of_pos hrun, dropWhile_eq_self hrest]

lemma length_digitsWidth_of_lt {width n : Nat} (hwidth : 0 < width) (h : n < 10 ^ width) :
    (digitsWidth width n).length = width := by
  rw [length_digitsWidth, Nat.max_eq_left ((length_digits_le_iff hwidth).2 h)]

/-- A text has at least as many bytes as characters. -/
lemma length_le_byteCount (cs : List Char) : cs.length ≤ byteCount cs := by
  induction cs with
  | nil => exact Nat.le_refl 0
  | cons c cs ih =>
    have hpos := c.utf8Size_pos
    rw [List.length_cons, byteCount_cons]
    omega

end Text

end PaymentPlans
