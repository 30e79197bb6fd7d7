/-
# Moving the point

An exponent moves the point of a size.  To the right it only takes places away or adds zeros; to
the left it may run out of places, and then it rounds.  A size that was not the number written
before the exponent never becomes the number that is meant: what is lost does not come back.
-/
import PaymentPlans.Proofs.Amount.Rounding

namespace PaymentPlans.Amount

/-- A size is what is made of a number whose point is moved: the number that is written before the
exponent is changed into another one. -/
structure IsMoved (m : Magnitude) (before after : ℚ) : Prop where
  /-- It is the other number exactly if both numbers are those of sizes. -/
  exact_iff : m.value = after ↔ Magnitude.Fits before ∧ Magnitude.Fits after
  /-- It differs from the other number by less than one in its last place. -/
  close : |m.value - after| < 1 / 10 ^ m.places

lemma isMoved_of_isRead {m : Magnitude} {q : ℚ} (h : m.IsRead q) : IsMoved m q q where
  exact_iff := ⟨fun heq => ⟨⟨m, heq⟩, ⟨m, heq⟩⟩, fun hfits => h.exact hfits.1⟩
  close := h.close

/-- A size whose point is moved without rounding is exact if the size was. -/
lemma isMoved_of_value_eq {m moved : Magnitude} {q factor : ℚ} (h : m.IsRead q) (hpos : 0 < factor)
    (hvalue : moved.value = m.value * factor)
    (hplace : m.value ≠ q → 1 / 10 ^ m.places * factor ≤ 1 / 10 ^ moved.places) :
    IsMoved moved q (q * factor) where
  exact_iff := by
    rw [hvalue, mul_left_inj' hpos.ne']
    constructor
    · rintro rfl
      exact ⟨⟨m, rfl⟩, ⟨moved, hvalue⟩⟩
    · exact fun hfits => h.exact hfits.1
  close := by
    rw [hvalue, ← sub_mul, abs_mul, abs_of_pos hpos]
    by_cases hsame : m.value = q
    · rw [hsame, sub_self, abs_zero, zero_mul]
      positivity
    · exact (mul_lt_mul_of_pos_right h.close hpos).trans_le (hplace hsame)

lemma checkSize_eq_ok_iff {units places : Nat} {m : Magnitude} :
    checkSize units places = .ok m ↔ m.units = units ∧ m.places = places := by
  rw [← Magnitude.ofParts?_eq_some_iff, checkSize]
  cases Magnitude.ofParts? units places <;> simp

/-- Moving the point to the right never rounds. -/
lemma isMoved_of_shiftRight {m moved : Magnitude} {q : ℚ} {exponent : Nat} (hread : m.IsRead q)
    (h : shiftRight m exponent = .ok moved) : IsMoved moved q (q * 10 ^ exponent) := by
  unfold shiftRight at h
  split at h
  · next hle =>
    obtain ⟨hunits, hplaces⟩ := checkSize_eq_ok_iff.1 h
    obtain ⟨j, hj⟩ := Nat.exists_eq_add_of_le hle
    have hj' : moved.places = j := by omega
    refine isMoved_of_value_eq hread (by positivity) ?_ fun _ => ?_
    · rw [Magnitude.value, Magnitude.value, hunits, hj', hj, pow_add]
      field_simp
    · rw [hj', hj, pow_add]
      refine le_of_eq ?_
      field_simp
  · next hlt =>
    split at h
    · cases h
    · next hexponent =>
      obtain ⟨hunits, hplaces⟩ := checkSize_eq_ok_iff.1 h
      obtain ⟨j, rfl⟩ := Nat.exists_eq_add_of_lt (Nat.lt_of_not_le hlt)
      have hzeros : moved.units = m.units * 10 ^ (j + 1) := by
        rw [hunits, Nat.add_assoc, Nat.add_sub_cancel_left]
        rfl
      refine isMoved_of_value_eq hread (by positivity) ?_ fun hinexact => ?_
      · rw [Magnitude.value, Magnitude.value, hzeros, hplaces, Nat.add_assoc, pow_add 10 m.places]
        push_cast
        field_simp
      · -- A size that was rounded has no room for one more zero.
        rcases hread.full hinexact with hall | hfull
        · omega
        · have hlarge : m.units * 10 ≤ moved.units := by
            rw [hzeros, Nat.pow_succ, Nat.mul_comm (10 ^ j), ← Nat.mul_assoc]
            exact Nat.le_mul_of_pos_right _ (Nat.pow_pos (by decide))
          exact absurd (hfull.trans hlarge) (Nat.not_le.2 moved.units_lt)

/-- The nearest number differs from the quotient by half of one at most. -/
lemma abs_divideRounding_sub_le (units k : Nat) :
    |(divideRounding units k : ℚ) - units / 10 ^ k| ≤ 1 / 2 := by
  have hpos : (0 : ℚ) < 10 ^ k := by positivity
  have hle : divideRounding units k * 10 ^ k ≤ units + 10 ^ k / 2 := Nat.div_mul_le_self _ _
  have hlt : units + 10 ^ k / 2 < divideRounding units k * 10 ^ k + 10 ^ k :=
    Nat.lt_div_mul_add (Nat.pow_pos (by decide))
  have hupper : (divideRounding units k * 10 ^ k * 2 : ℚ) ≤ units * 2 + 10 ^ k := by
    exact_mod_cast show _ * _ * 2 ≤ units * 2 + 10 ^ k by omega
  have hlower : (units * 2 : ℚ) ≤ divideRounding units k * 10 ^ k * 2 + 10 ^ k := by
    exact_mod_cast show units * 2 ≤ _ * _ * 2 + 10 ^ k by omega
  have hscaled : ((divideRounding units k : ℚ) - units / 10 ^ k) * 10 ^ k =
      divideRounding units k * 10 ^ k - units := by
    field_simp
  rw [← mul_le_mul_iff_left₀ hpos, ← abs_of_pos hpos, ← abs_mul, abs_of_pos hpos, hscaled, abs_le]
  constructor <;> linarith

lemma divideRounding_eq_of_dvd {units k : Nat} (h : 10 ^ k ∣ units) :
    (divideRounding units k : ℚ) = units / 10 ^ k := by
  obtain ⟨n, rfl⟩ := h
  have hpos : 0 < 10 ^ k := Nat.pow_pos (by decide)
  have hquot : divideRounding (10 ^ k * n) k = n := by
    change (10 ^ k * n + 10 ^ k / 2) / 10 ^ k = n
    rw [Nat.mul_add_div hpos, Nat.div_eq_of_lt (Nat.div_lt_self hpos (by decide)), Nat.add_zero]
  rw [hquot]
  push_cast
  field_simp

/-- Digits that would stand behind the last place are rounded. -/
lemma isMoved_of_divideRounding {m moved : Magnitude} {q : ℚ} {exponent k : Nat}
    (hread : m.IsRead q) (hexponent : exponent ≤ maxPlaces)
    (hk : m.places + exponent = maxPlaces + (k + 1))
    (hunits : moved.units = divideRounding m.units (k + 1)) (hplaces : moved.places = maxPlaces) :
    IsMoved moved q (q * (10 ^ exponent)⁻¹) := by
  have hpos : (0 : ℚ) < (10 ^ exponent)⁻¹ := by positivity
  have hlast : (0 : ℚ) < 10 ^ maxPlaces := by positivity
  have hplace : (1 : ℚ) / 10 ^ m.places * (10 ^ exponent)⁻¹ =
      1 / 10 ^ (k + 1) / 10 ^ maxPlaces := by
    rw [div_div, ← pow_add, Nat.add_comm (k + 1), ← hk, pow_add, ← div_div]
    rfl
  have hvalue : m.value * (10 ^ exponent)⁻¹ = m.units / 10 ^ (k + 1) / 10 ^ maxPlaces :=
    calc m.value * (10 ^ exponent)⁻¹
        = m.units * (1 / 10 ^ m.places * (10 ^ exponent)⁻¹) := by
          rw [Magnitude.value, ← mul_assoc, mul_one_div]
      _ = m.units / 10 ^ (k + 1) / 10 ^ maxPlaces := by
          rw [hplace, ← mul_div_assoc, mul_one_div]
  constructor
  · constructor
    · intro hsame
      -- Moving the point back gives a size again, which is the number before the exponent.
      obtain ⟨j, hj⟩ := Nat.exists_eq_add_of_le hexponent
      let back : Magnitude := ⟨moved.units, j, moved.units_lt, hj ▸ Nat.le_add_left j exponent⟩
      have hback : back.value = q := by
        rw [eq_mul_inv_iff_mul_eq₀ (by positivity), Magnitude.value, hplaces, hj, pow_add] at hsame
        rw [← hsame]
        change (moved.units / 10 ^ j : ℚ) = _
        field_simp
      exact ⟨⟨back, hback⟩, moved, hsame⟩
    · rintro ⟨hbefore, n, hn⟩
      rw [← hread.exact hbefore, hvalue] at hn ⊢
      rw [div_div, ← pow_add, Nat.add_comm] at hn
      have hdvd := Magnitude.pow_dvd_of_value_eq hn n.places_le
      rw [Magnitude.value, hunits, hplaces, divideRounding_eq_of_dvd hdvd]
  · -- Half of one in the last place is lost here, and no more than a tenth of one before.
    have hrounded : |moved.value - m.value * (10 ^ exponent)⁻¹| ≤ 1 / 2 / 10 ^ maxPlaces := by
      rw [hvalue, Magnitude.value, hunits, hplaces, ← sub_div, abs_div, abs_of_pos hlast]
      exact div_le_div_of_nonneg_right (abs_divideRounding_sub_le _ _) hlast.le
    have hbefore : |m.value * (10 ^ exponent)⁻¹ - q * (10 ^ exponent)⁻¹| <
        1 / 10 / 10 ^ maxPlaces := by
      rw [← sub_mul, abs_mul, abs_of_pos hpos]
      calc |m.value - q| * (10 ^ exponent)⁻¹
          < 1 / 10 ^ m.places * (10 ^ exponent)⁻¹ := mul_lt_mul_of_pos_right hread.close hpos
        _ = 1 / 10 ^ (k + 1) / 10 ^ maxPlaces := hplace
        _ ≤ 1 / 10 ^ 1 / 10 ^ maxPlaces := by
          refine div_le_div_of_nonneg_right ?_ hlast.le
          exact one_div_pow_le_one_div_pow_of_le (by norm_num) (Nat.succ_le_succ (Nat.zero_le k))
        _ = 1 / 10 / 10 ^ maxPlaces := by rw [pow_one]
    rw [hplaces]
    calc |moved.value - q * (10 ^ exponent)⁻¹|
        ≤ |moved.value - m.value * (10 ^ exponent)⁻¹| +
          |m.value * (10 ^ exponent)⁻¹ - q * (10 ^ exponent)⁻¹| := abs_sub_le _ _ _
      _ < 1 / 2 / 10 ^ maxPlaces + 1 / 10 / 10 ^ maxPlaces :=
        add_lt_add_of_le_of_lt hrounded hbefore
      _ < 1 / 10 ^ maxPlaces := by
        rw [← add_div]
        exact div_lt_div_of_pos_right (by norm_num) hlast

/-- Moving the point to the left rounds if there are not places enough. -/
lemma isMoved_of_shiftLeft {m moved : Magnitude} {q : ℚ} {exponent : Nat} (hread : m.IsRead q)
    (h : shiftLeft m exponent = .ok moved) : IsMoved moved q (q * (10 ^ exponent)⁻¹) := by
  unfold shiftLeft at h
  split at h
  · exact nomatch h
  · next hexponent =>
    split at h
    · next hmany =>
      obtain ⟨hunits, hplaces⟩ := checkSize_eq_ok_iff.1 h
      obtain ⟨k, hk⟩ := Nat.exists_eq_add_of_lt hmany
      rw [Nat.add_assoc] at hk
      rw [hk, Nat.add_sub_cancel_left] at hunits
      exact isMoved_of_divideRounding hread (Nat.le_of_not_lt hexponent) hk hunits hplaces
    · obtain ⟨hunits, hplaces⟩ := checkSize_eq_ok_iff.1 h
      refine isMoved_of_value_eq hread (by positivity) ?_ fun _ => ?_
      · rw [Magnitude.value, Magnitude.value, hunits, hplaces, pow_add]
        field_simp
      · rw [hplaces, pow_add]
        refine le_of_eq ?_
        field_simp

/-- A zero is left when the point of a zero is moved. -/
lemma units_eq_zero_of_shiftRight {m moved : Magnitude} {exponent : Nat}
    (h : shiftRight m exponent = .ok moved) (hzero : m.units = 0) : moved.units = 0 := by
  unfold shiftRight at h
  split at h
  · rw [(checkSize_eq_ok_iff.1 h).1, hzero]
  · split at h
    · exact nomatch h
    · rw [(checkSize_eq_ok_iff.1 h).1, hzero, Nat.zero_mul]

lemma units_eq_zero_of_shiftLeft {m moved : Magnitude} {exponent : Nat}
    (h : shiftLeft m exponent = .ok moved) (hzero : m.units = 0) : moved.units = 0 := by
  unfold shiftLeft at h
  split at h
  · exact nomatch h
  · split at h
    · rw [(checkSize_eq_ok_iff.1 h).1, hzero]
      simp only [divideRounding, Nat.zero_add]
      exact Nat.div_eq_of_lt (Nat.div_lt_self (Nat.pow_pos (by decide)) (by decide))
    · rw [(checkSize_eq_ok_iff.1 h).1, hzero]

end PaymentPlans.Amount
