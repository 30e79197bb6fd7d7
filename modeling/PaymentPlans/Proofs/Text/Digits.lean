/-
# Digits and what they write

A list of digits writes a number below the power of ten that has one zero for each of them, and
the number and how many digits there are tell the digits again.  So the writing of fixed width
gives back every list of digits that has no zero in front beyond that width.
-/
import Mathlib.Tactic.Common
import Mathlib.Tactic.Ring
import PaymentPlans.Text.Digits

namespace PaymentPlans.Text

/-- The digits of a text, without what stands between them. -/
def digitsIn (cs : List Char) : List Char := cs.filter Char.isDigit

lemma digitsIn_cons_of_isDigit {c : Char} {cs : List Char} (h : c.isDigit) :
    digitsIn (c :: cs) = c :: digitsIn cs :=
  List.filter_cons_of_pos h

lemma digitsIn_cons_of_not_isDigit {c : Char} {cs : List Char} (h : ¬ c.isDigit) :
    digitsIn (c :: cs) = digitsIn cs :=
  List.filter_cons_of_neg h

lemma isDigit_of_mem_digitsIn {cs : List Char} {c : Char} (h : c ∈ digitsIn cs) : c.isDigit :=
  (List.mem_filter.1 h).2

lemma digitsIn_eq_self {cs : List Char} (h : ∀ c ∈ cs, c.isDigit) : digitsIn cs = cs :=
  List.filter_eq_self.2 h

/-- The value of a character as a digit. -/
def digitValue (c : Char) : Nat := c.toNat - '0'.toNat

lemma digit?_of_isDigit {c : Char} (h : c.isDigit) : digit? c = some (digitValue c) := by
  rw [digit?, if_pos h, digitValue]

lemma digit?_of_not_isDigit {c : Char} (h : ¬ c.isDigit) : digit? c = none := if_neg h

lemma digitValue_lt {c : Char} (h : c.isDigit) : digitValue c < 10 := by
  obtain ⟨hlow, hhigh⟩ := Char.isDigit_iff_toNat.1 h
  have hnine : '9'.toNat = '0'.toNat + 9 := rfl
  unfold digitValue
  omega

lemma digitValue_inj {c d : Char} (hc : c.isDigit) (hd : d.isDigit)
    (h : digitValue c = digitValue d) : c = d := by
  have hlowc := (Char.isDigit_iff_toNat.1 hc).1
  have hlowd := (Char.isDigit_iff_toNat.1 hd).1
  unfold digitValue at h
  exact Char.toNat_inj.1 (by omega)

/-! ## The number that digits write -/

@[simp] lemma ofDigits_nil : ofDigits [] = 0 := Nat.ofDigitChars_nil

lemma ofDigits_cons (c : Char) (cs : List Char) :
    ofDigits (c :: cs) = digitValue c * 10 ^ cs.length + ofDigits cs := by
  rw [ofDigits, Nat.ofDigitChars_cons, Nat.ofDigitChars_eq_ofDigitChars_zero, Nat.mul_zero,
    Nat.zero_add, Nat.mul_comm]
  rfl

lemma ofDigits_lt {cs : List Char} (h : ∀ c ∈ cs, c.isDigit) : ofDigits cs < 10 ^ cs.length := by
  induction cs with
  | nil => simp
  | cons c cs ih =>
    obtain ⟨hc, hcs⟩ := List.forall_mem_cons.1 h
    have hlt := ih hcs
    have hdigit : (digitValue c + 1) * 10 ^ cs.length ≤ 10 * 10 ^ cs.length :=
      Nat.mul_le_mul_right _ (digitValue_lt hc)
    rw [ofDigits_cons, List.length_cons, Nat.pow_succ]
    rw [Nat.add_mul] at hdigit
    omega

/-- The number and how many digits there are tell the digits. -/
lemma eq_of_ofDigits_eq {cs ds : List Char} (hcs : ∀ c ∈ cs, c.isDigit) (hds : ∀ c ∈ ds, c.isDigit)
    (hlength : cs.length = ds.length) (hsame : ofDigits cs = ofDigits ds) : cs = ds := by
  induction cs generalizing ds with
  | nil => exact (List.length_eq_zero_iff.1 hlength.symm).symm
  | cons c cs ih =>
    obtain ⟨d, ds, rfl⟩ := List.exists_cons_of_length_eq_add_one hlength.symm
    obtain ⟨hc, hcs⟩ := List.forall_mem_cons.1 hcs
    obtain ⟨hd, hds⟩ := List.forall_mem_cons.1 hds
    have hlength : cs.length = ds.length := Nat.succ.inj hlength
    have hpos : 0 < 10 ^ cs.length := Nat.pow_pos (by decide)
    have hlt := ofDigits_lt hcs
    have hlt' := ofDigits_lt hds
    rw [ofDigits_cons, ofDigits_cons, ← hlength] at hsame
    rw [← hlength] at hlt'
    -- The first digit is the quotient by that power of ten, and the others are the remainder.
    have hfirst : digitValue c = digitValue d := by
      have hquot := congrArg (· / 10 ^ cs.length) hsame
      simpa [Nat.mul_comm, Nat.mul_add_div hpos, Nat.div_eq_of_lt hlt, Nat.div_eq_of_lt hlt']
        using hquot
    rw [hfirst, Nat.add_left_cancel_iff] at hsame
    rw [digitValue_inj hc hd hfirst, ih hcs hds hlength hsame]

/-- The number that is written when these digits stand behind those of another one. -/
def followedBy (n : Nat) (ds : List Char) : Nat := n * 10 ^ ds.length + ofDigits ds

@[simp] lemma followedBy_nil (n : Nat) : followedBy n [] = n := by simp [followedBy]

@[simp] lemma zero_followedBy (ds : List Char) : followedBy 0 ds = ofDigits ds := by
  simp [followedBy]

lemma followedBy_cons (n : Nat) (c : Char) (ds : List Char) :
    followedBy n (c :: ds) = followedBy (n * 10 + digitValue c) ds := by
  rw [followedBy, followedBy, ofDigits_cons, List.length_cons, Nat.pow_succ]
  ring

lemma le_followedBy (n : Nat) (ds : List Char) : n ≤ followedBy n ds :=
  (Nat.le_mul_of_pos_right n (Nat.pow_pos (by decide))).trans (Nat.le_add_right _ _)

lemma ofDigits_append (cs ds : List Char) : ofDigits (cs ++ ds) = followedBy (ofDigits cs) ds := by
  rw [ofDigits, Nat.ofDigitChars_append, Nat.ofDigitChars_eq_ofDigitChars_zero, Nat.mul_comm]
  rfl

/-! ## Writings of fixed width -/

lemma isDigit_of_mem_digits {n : Nat} {c : Char} (h : c ∈ digits n) : c.isDigit :=
  Nat.isDigit_of_mem_toDigits (by decide) (by decide) h

lemma isDigit_of_mem_digitsWidth {width n : Nat} {c : Char} (h : c ∈ digitsWidth width n) :
    c.isDigit := by
  rcases List.mem_append.1 h with hzero | hdigit
  · rw [List.eq_of_mem_replicate hzero]
    rfl
  · exact isDigit_of_mem_digits hdigit

lemma length_digits_le_iff {n k : Nat} (hk : 0 < k) : (digits n).length ≤ k ↔ n < 10 ^ k :=
  Nat.length_toDigits_le_iff (by decide) hk

lemma length_digitsWidth (width n : Nat) :
    (digitsWidth width n).length = max width (digits n).length := by
  rw [digitsWidth, List.length_append, List.length_replicate]
  omega

lemma width_le_length_digitsWidth (width n : Nat) : width ≤ (digitsWidth width n).length := by
  rw [length_digitsWidth]
  exact Nat.le_max_left _ _

/-- Digits without a zero in front write a number that has so many digits. -/
lemma length_digits_ofDigits {c : Char} {cs : List Char} (h : ∀ d ∈ c :: cs, d.isDigit)
    (hc : c ≠ '0') : (digits (ofDigits (c :: cs))).length = cs.length + 1 := by
  have hle : (digits (ofDigits (c :: cs))).length ≤ cs.length + 1 :=
    (length_digits_le_iff (Nat.succ_pos _)).2 (ofDigits_lt h)
  have hpos : 0 < digitValue c := by
    refine Nat.pos_of_ne_zero fun hzero => hc ?_
    exact digitValue_inj (h c List.mem_cons_self) rfl hzero
  have hlarge : 10 ^ cs.length ≤ ofDigits (c :: cs) := by
    rw [ofDigits_cons]
    exact (Nat.le_mul_of_pos_left _ hpos).trans (Nat.le_add_right _ _)
  have hge : ¬ (digits (ofDigits (c :: cs))).length ≤ cs.length := by
    intro hfew
    rcases Nat.eq_zero_or_pos cs.length with hzero | hsome
    · have := Nat.length_toDigits_pos (b := 10) (n := ofDigits (c :: cs))
      rw [digits] at hfew
      omega
    · exact absurd ((length_digits_le_iff hsome).1 hfew) (Nat.not_lt.2 hlarge)
  omega

/-- The writing of fixed width gives back the digits of that width. -/
lemma digitsWidth_ofDigits_of_length {cs : List Char} {width : Nat} (h : ∀ c ∈ cs, c.isDigit)
    (hwidth : 0 < width) (hlength : cs.length = width) : digitsWidth width (ofDigits cs) = cs := by
  refine eq_of_ofDigits_eq (fun _ => isDigit_of_mem_digitsWidth) h ?_
    (ofDigits_digitsWidth _ _)
  have hle : (digits (ofDigits cs)).length ≤ width := by
    rw [length_digits_le_iff hwidth, ← hlength]
    exact ofDigits_lt h
  rw [length_digitsWidth, hlength, Nat.max_eq_left hle]

/-- The writing of fixed width gives back more digits than that if there is no zero in front. -/
lemma digitsWidth_ofDigits_of_ne_zero {c : Char} {cs : List Char} {width : Nat}
    (h : ∀ d ∈ c :: cs, d.isDigit) (hc : c ≠ '0') (hwidth : width ≤ cs.length + 1) :
    digitsWidth width (ofDigits (c :: cs)) = c :: cs := by
  refine eq_of_ofDigits_eq (fun _ => isDigit_of_mem_digitsWidth) h ?_
    (ofDigits_digitsWidth _ _)
  rw [length_digitsWidth, length_digits_ofDigits h hc, Nat.max_eq_right hwidth, List.length_cons]

/-- A writing of fixed width that starts with a zero has no more digits than that width. -/
lemma length_of_digitsWidth_eq_zero_cons {width n : Nat} {cs : List Char} (hwidth : 0 < width)
    (h : digitsWidth width n = '0' :: cs) : cs.length + 1 = width := by
  have hcs : ∀ c ∈ cs, c.isDigit := by
    intro c hc
    have hmem : c ∈ digitsWidth width n := by
      rw [h]
      exact List.mem_cons_of_mem _ hc
    exact isDigit_of_mem_digitsWidth hmem
  have hn : n = ofDigits cs := by
    rw [← ofDigits_digitsWidth width n, h, ofDigits_cons]
    simp [digitValue]
  have hlength := length_digitsWidth width n
  rw [h, List.length_cons] at hlength
  by_contra hlong
  -- Otherwise the zero would be a digit of the number, which has fewer.
  have hfew : (digits n).length ≤ cs.length := by
    rw [length_digits_le_iff (by omega), hn]
    exact ofDigits_lt hcs
  omega

end PaymentPlans.Text
