/-
# Whole numbers of TOML that were written are read back

The digits of a number are a whole number of TOML when a line ends behind them: they are no date
and no time, and the number has no fraction and no power of ten.
-/
import PaymentPlans.Proofs.Text.Front
import PaymentPlans.Toml.Reader

namespace PaymentPlans.Toml

open Text (StopsAt digits)

/-! ## Digits are no moment -/

/-- A number of so many digits is taken from the digits at the front. -/
lemma scanNumber_digits {ds rest cs : List Char} {count low high n : Nat}
    (hrest : StopsAt Char.isDigit rest) (h : scanNumber count low high (ds ++ rest) = some (n, cs)) :
    cs = ds.drop count ++ rest := by
  rw [scanNumber] at h
  split at h
  · next htaken =>
    obtain ⟨hlength, hall, -⟩ := htaken
    have hcount : count ≤ ds.length := by
      by_contra hmore
      rw [List.take_append, List.take_of_length_le (by omega)] at hlength hall
      rcases rest with _ | ⟨c, rest⟩
      · rw [List.take_nil, List.append_nil] at hlength
        omega
      · obtain ⟨k, hk⟩ : ∃ k, count - ds.length = k + 1 := ⟨count - ds.length - 1, by omega⟩
        rw [hk, List.take_succ_cons, List.all_append, List.all_cons, hrest c rfl] at hall
        simp at hall
    rw [← (Prod.mk.inj (Option.some.inj h)).2, List.drop_append_of_le_length hcount]
  · exact nomatch h

lemma scanChar_eq_none {c : Char} {cs : List Char} (h : cs.head? ≠ some c) :
    scanChar c cs = none := by
  cases cs with
  | nil => rfl
  | cons d ds =>
    refine if_neg ?_
    rintro rfl
    exact h rfl

lemma head?_drop_append_ne {ds rest : List Char} {c : Char} (hds : ∀ d ∈ ds, d.isDigit)
    (hc : c.isDigit = false) (hrest : rest.head? ≠ some c) (n : Nat) :
    (ds.drop n ++ rest).head? ≠ some c := by
  rcases hdrop : ds.drop n with _ | ⟨d, tail⟩
  · exact hrest
  · rintro ⟨⟩
    have hdigit := hds c (List.mem_of_mem_drop (hdrop ▸ List.mem_cons_self))
    rw [hc] at hdigit
    exact nomatch hdigit

/-- Digits are no moment, if no hyphen and no colon follows them. -/
lemma scanMoment_digits {ds rest : List Char} (hds : ∀ d ∈ ds, d.isDigit)
    (hrest : StopsAt Char.isDigit rest) (hhyphen : rest.head? ≠ some '-')
    (hcolon : rest.head? ≠ some ':') (limits : Limits) : scanMoment limits (ds ++ rest) = none := by
  have hday : scanDay (ds ++ rest) = none := by
    rw [scanDay]
    rcases hyear : scanNumber 4 0 9999 (ds ++ rest) with _ | ⟨year, cs⟩
    · rfl
    · rw [scanNumber_digits hrest hyear]
      simp only [Option.bind_eq_bind, Option.bind_some,
        scanChar_eq_none (head?_drop_append_ne hds rfl hhyphen 4), Option.bind_none]
  have hclock : scanClock limits (ds ++ rest) = none := by
    rw [scanClock]
    rcases hhour : scanNumber 2 0 limits.hour (ds ++ rest) with _ | ⟨hour, cs⟩
    · rfl
    · rw [scanNumber_digits hrest hhour]
      simp only [Option.bind_eq_bind, Option.bind_some,
        scanChar_eq_none (head?_drop_append_ne hds rfl hcolon 2), Option.bind_none]
  rw [scanMoment, hday, hclock]
  rfl

/-! ## Digits are a number -/

/-- Digits without underscores are taken whole. -/
lemma scanMore_digits {ds : List Char} (hds : ∀ d ∈ ds, d.isDigit) (rest : List Char) :
    scanMore Char.isDigit (ds ++ '\n' :: rest) = (ds, '\n' :: rest) := by
  induction ds with
  | nil => exact scanMore.eq_2 _ _ _ nofun
  | cons d ds ih =>
    rw [List.forall_mem_cons] at hds
    have hunderscore : d ≠ '_' := by
      rintro rfl
      exact nomatch hds.1
    rw [List.cons_append, scanMore.eq_2 _ _ _ fun _ _ h => absurd h hunderscore, if_pos hds.1,
      ih hds.2]

/-- A zero in front of the digits of a number is the whole number. -/
lemma eq_nil_of_digits_eq_zero_cons {n : Nat} {cs : List Char} (h : digits n = '0' :: cs) :
    cs = [] := by
  have hone : Text.digitsWidth 1 n = '0' :: cs := by
    rw [Text.digitsWidth, h, List.length_cons, show 1 - (cs.length + 1) = 0 by omega,
      List.replicate_zero, List.nil_append]
  have hlength := Text.length_of_digitsWidth_eq_zero_cons (by decide) hone
  exact List.eq_nil_of_length_eq_zero (by omega)

lemma exists_digits_eq_cons (n : Nat) : ∃ c cs, digits n = c :: cs ∧ c.isDigit := by
  rcases hdigits : digits n with _ | ⟨c, cs⟩
  · exact absurd hdigits Nat.toDigits_ne_nil
  · exact ⟨c, cs, rfl, Text.isDigit_of_mem_digits (hdigits ▸ List.mem_cons_self)⟩

lemma scanWhole_digits (n : Nat) (rest : List Char) :
    scanWhole (digits n ++ '\n' :: rest) = some (digits n, '\n' :: rest) := by
  obtain ⟨c, cs, hdigits, hc⟩ := exists_digits_eq_cons n
  have hcs : ∀ d ∈ cs, d.isDigit := fun d hd =>
    Text.isDigit_of_mem_digits (hdigits ▸ List.mem_cons_of_mem c hd)
  rw [hdigits]
  by_cases hzero : c = '0'
  · subst hzero
    rw [eq_nil_of_digits_eq_zero_cons hdigits]
    rfl
  · rw [List.cons_append, scanWhole.eq_2 _ fun _ h => hzero (List.cons.inj h).1, scanDigits,
      if_pos hc, scanMore_digits hcs]

/-- The digits of a number are read as the number, at the end of a line. -/
lemma scanNumeral_digits {n : Nat} (h : (n : Int) ≤ maxInteger) (rest : List Char) :
    scanNumeral (digits n ++ '\n' :: rest) = some (.integer n, '\n' :: rest) := by
  have hdecimal : scanDecimal false (digits n ++ '\n' :: rest) = some (.integer n, '\n' :: rest) := by
    have hplaces : scanPlaces ('\n' :: rest) = some (none, '\n' :: rest) := rfl
    have hpower : scanPower ('\n' :: rest) = some (none, '\n' :: rest) := rfl
    have hfits : minInteger ≤ (n : Int) ∧ (n : Int) ≤ maxInteger :=
      ⟨Int.le_trans (by decide) (Int.natCast_nonneg n), h⟩
    simp only [scanDecimal, scanWhole_digits, hplaces, hpower, Option.bind_eq_bind,
      Option.bind_some, Text.ofDigits_digits, integer?, if_neg Bool.false_ne_true, if_pos hfits]
    rfl
  obtain ⟨c, cs, hdigits, hc⟩ := exists_digits_eq_cons n
  have hbase : ∀ b tail, (b = 'x' ∨ b = 'o' ∨ b = 'b') →
      c :: (cs ++ '\n' :: rest) ≠ '0' :: b :: tail := by
    intro b tail hb heq
    obtain ⟨rfl, htail⟩ := List.cons.inj heq
    rw [eq_nil_of_digits_eq_zero_cons hdigits] at htail
    obtain ⟨rfl, -⟩ := List.cons.inj htail
    rcases hb with hb | hb | hb <;> exact nomatch hb
  have hsign : ∀ b tail, b.isDigit = false → c :: (cs ++ '\n' :: rest) ≠ b :: tail := by
    intro b tail hb heq
    obtain ⟨rfl, -⟩ := List.cons.inj heq
    exact nomatch hb.symm.trans hc
  rw [hdigits, List.cons_append] at hdecimal ⊢
  rw [scanNumeral.eq_6 _ (fun tail => hbase 'x' tail (by decide))
    (fun tail => hbase 'o' tail (by decide)) (fun tail => hbase 'b' tail (by decide))
    (fun tail => hsign '+' tail rfl) (fun tail => hsign '-' tail rfl), hdecimal]
  rfl

/-- What starts with a digit is a moment or a number. -/
lemma scanValue_of_isDigit {c : Char} (h : c.isDigit) (depth : Nat) (cs : List Char) :
    scanValue depth (c :: cs) = ((scanMoment .strict (c :: cs)).map fun (m, rest) =>
      (.moment m, rest)).or (scanNumeral (c :: cs)) := by
  have hne : ∀ b, b.isDigit = false → c ≠ b := fun _ => Text.ne_of_kind h
  rw [scanValue.eq_def]
  simp only [if_neg (hne '"' rfl), if_neg (hne '\'' rfl), if_neg (hne 't' rfl),
    if_neg (hne 'f' rfl), if_neg (hne '[' rfl), if_neg (hne '\x7b' rfl)]

/-- The digits of a number are read as a value, at the end of a line. -/
lemma scanValue_digits {n : Nat} (h : (n : Int) ≤ maxInteger) (depth : Nat) (rest : List Char) :
    scanValue depth (digits n ++ '\n' :: rest) = some (.integer n, '\n' :: rest) := by
  have hmoment : scanMoment .strict (digits n ++ '\n' :: rest) = none :=
    scanMoment_digits (fun _ => Text.isDigit_of_mem_digits) (Text.stopsAt_cons rfl rest)
      (by rintro ⟨⟩) (by rintro ⟨⟩) _
  have hnumeral := scanNumeral_digits h rest
  obtain ⟨c, cs, hdigits, hc⟩ := exists_digits_eq_cons n
  rw [hdigits, List.cons_append] at hmoment hnumeral ⊢
  rw [scanValue_of_isDigit hc, hmoment, hnumeral]
  rfl

end PaymentPlans.Toml
