/-
# Rounding the digits that do not fit

A size is read digit by digit.  While there is room nothing is lost; the digits for which there is
no room are cut off, or they round the last place upwards.  Either way the size differs from the
number that was written by less than one in its last place, and it is that number if any size is.
-/
import Mathlib.Tactic.FieldSimp
import Mathlib.Tactic.Linarith
import PaymentPlans.Proofs.Amount.Value

namespace PaymentPlans

open Text (digitValue followedBy followedBy_cons ofDigits)

namespace Magnitude

/-- The number that is written when these digits stand behind those of a size, which has no more
digits before the point. -/
def followed (m : Magnitude) (ds : List Char) : ℚ :=
  followedBy m.units ds / 10 ^ (m.places + ds.length)

@[simp] lemma followed_nil (m : Magnitude) : m.followed [] = m.value := by
  simp [followed, value]

lemma followed_eq (m : Magnitude) (ds : List Char) :
    m.followed ds = m.value + ofDigits ds / 10 ^ (m.places + ds.length) := by
  rw [followed, value, followedBy, pow_add]
  push_cast
  field_simp

/-- A digit that finds room behind the point is one of the digits that follow. -/
lemma followed_cons {m next : Magnitude} {c : Char} {ds : List Char}
    (h : m.pushPlace? (digitValue c) = some next) : m.followed (c :: ds) = next.followed ds := by
  obtain ⟨hunits, hplaces⟩ := ofParts?_eq_some_iff.1 h
  rw [followed, followed, followedBy_cons, hunits, hplaces, List.length_cons, Nat.add_assoc,
    Nat.add_comm 1]

lemma value_le_followed (m : Magnitude) (ds : List Char) : m.value ≤ m.followed ds := by
  rw [followed_eq]
  exact le_add_of_nonneg_right (by positivity)

/-- Digits that follow add less than one in the last place. -/
lemma followed_lt (m : Magnitude) {ds : List Char} (hds : ∀ c ∈ ds, c.isDigit) :
    m.followed ds < m.value + 1 / 10 ^ m.places := by
  have hlt : (ofDigits ds : ℚ) < 10 ^ ds.length := by exact_mod_cast Text.ofDigits_lt hds
  rw [followed_eq, pow_add, add_lt_add_iff_left, div_lt_div_iff₀ (by positivity) (by positivity),
    one_mul, mul_comm]
  exact mul_lt_mul_of_pos_left hlt (by positivity)

lemma followed_eq_value_iff (m : Magnitude) (ds : List Char) :
    m.followed ds = m.value ↔ ofDigits ds = 0 := by
  rw [followed_eq]
  simp

/-- There is no room for these digits behind the point. -/
def NoRoom (m : Magnitude) (ds : List Char) : Prop :=
  m.places = Amount.maxPlaces ∨
    ∃ c cs, ds = c :: cs ∧ Amount.limit ≤ m.units * 10 + digitValue c

/-- The last digits of a number are zeros if it is that of a size with fewer places. -/
lemma pow_dvd_of_value_eq {n : Magnitude} {units places k : Nat}
    (h : n.value = units / 10 ^ (places + k)) (hplaces : n.places ≤ places) : 10 ^ k ∣ units := by
  obtain ⟨j, rfl⟩ := Nat.exists_eq_add_of_le hplaces
  have hsame : n.units * 10 ^ (n.places + j + k) = units * 10 ^ n.places := by
    rw [value, div_eq_div_iff (by positivity) (by positivity)] at h
    exact_mod_cast h
  refine ⟨n.units * 10 ^ j, Nat.eq_of_mul_eq_mul_right (Nat.pow_pos (n := n.places)
    (by decide : 0 < 10)) ?_⟩
  rw [← hsame]
  ring

/-- Digits for which there is no room are zeros if the number with them is that of a size. -/
lemma ofDigits_eq_zero_of_fits {m : Magnitude} {ds : List Char} (hds : ∀ c ∈ ds, c.isDigit)
    (hroom : m.NoRoom ds) (hfits : Fits (m.followed ds)) : ofDigits ds = 0 := by
  obtain ⟨n, hn⟩ := hfits
  rcases Nat.lt_or_ge m.places n.places with hmore | hfewer
  · -- With one more place the number would be too large.
    obtain ⟨j, hj⟩ := Nat.exists_eq_add_of_lt hmore
    have hplaces := n.places_le
    obtain ⟨c, cs, rfl, hlarge⟩ := hroom.resolve_left (by omega)
    have hsame : n.units * 10 ^ (m.places + (cs.length + 1)) =
        followedBy m.units (c :: cs) * 10 ^ (m.places + j + 1) := by
      rw [value, followed, hj, div_eq_div_iff (by positivity) (by positivity)] at hn
      exact_mod_cast hn
    have hcancel : n.units * 10 ^ cs.length = followedBy m.units (c :: cs) * 10 ^ j := by
      refine Nat.eq_of_mul_eq_mul_right (Nat.pow_pos (n := m.places + 1) (by decide : 0 < 10)) ?_
      calc n.units * 10 ^ cs.length * 10 ^ (m.places + 1)
          = n.units * 10 ^ (m.places + (cs.length + 1)) := by ring
        _ = followedBy m.units (c :: cs) * 10 ^ (m.places + j + 1) := hsame
        _ = followedBy m.units (c :: cs) * 10 ^ j * 10 ^ (m.places + 1) := by ring
    have hlarger : Amount.limit * 10 ^ cs.length ≤ n.units * 10 ^ cs.length :=
      calc Amount.limit * 10 ^ cs.length
          ≤ (m.units * 10 + digitValue c) * 10 ^ cs.length := Nat.mul_le_mul_right _ hlarge
        _ ≤ followedBy m.units (c :: cs) := by
          rw [followedBy_cons, followedBy]
          exact Nat.le_add_right _ _
        _ ≤ followedBy m.units (c :: cs) * 10 ^ j :=
          Nat.le_mul_of_pos_right _ (Nat.pow_pos (by decide))
        _ = n.units * 10 ^ cs.length := hcancel.symm
    exact absurd (Nat.le_of_mul_le_mul_right hlarger (Nat.pow_pos (by decide)))
      (Nat.not_le.2 n.units_lt)
  · -- Otherwise the power of ten divides them.
    have hdvd : 10 ^ ds.length ∣ followedBy m.units ds := pow_dvd_of_value_eq hn hfewer
    exact Nat.eq_zero_of_dvd_of_lt ((Nat.dvd_add_right (Nat.dvd_mul_left _ _)).1 hdvd)
      (Text.ofDigits_lt hds)

/-- A size is what is read where a number is written. -/
structure IsRead (m : Magnitude) (q : ℚ) : Prop where
  /-- It is that number if the number is that of a size at all. -/
  exact : Fits q → m.value = q
  /-- It differs from the number by less than one in its last place. -/
  close : |m.value - q| < 1 / 10 ^ m.places
  /-- If it is another number then there was no room for one more digit. -/
  full : m.value ≠ q → m.places = Amount.maxPlaces ∨ Amount.limit ≤ m.units * 10

lemma isRead_value (m : Magnitude) : m.IsRead m.value where
  exact _ := rfl
  close := by
    rw [sub_self, abs_zero]
    positivity
  full h := absurd rfl h

lemma limit_eq : Amount.limit = 7922816251426433759354395033 * 10 + 6 := by decide

/-- Digits for which there is no room are left out. -/
lemma isRead_cut {m : Magnitude} {ds : List Char} (hds : ∀ c ∈ ds, c.isDigit) (hroom : m.NoRoom ds)
    (hfull : m.places = Amount.maxPlaces ∨ Amount.limit ≤ m.units * 10) :
    m.IsRead (m.followed ds) where
  exact hfits := by
    rw [eq_comm, followed_eq_value_iff]
    exact ofDigits_eq_zero_of_fits hds hroom hfits
  close := by
    have hle := m.value_le_followed ds
    have hlt := m.followed_lt hds
    rw [abs_lt]
    constructor <;> linarith
  full _ := hfull

/-- One more in the last place, or rather five more if the last place is given up. -/
lemma bump?_eq_some {m next : Magnitude} (h : m.bump? = some next) :
    next.units = m.units + 1 ∧ next.places = m.places ∨
      m.units + 1 = Amount.limit ∧ next.units * 10 = m.units + 5 ∧ next.places + 1 = m.places := by
  unfold bump? at h
  split at h
  · next hparts =>
    obtain rfl := Option.some.inj h
    exact Or.inl (ofParts?_eq_some_iff.1 hparts)
  · next hparts =>
    split at h
    · exact nomatch h
    · next hplaces =>
      obtain ⟨hunits, hnext⟩ := ofParts?_eq_some_iff.1 h
      have hlarge := (ofParts?_eq_none_iff.1 hparts).resolve_right (Nat.not_lt.2 m.places_le)
      have hlt := m.units_lt
      rw [limit_eq] at *
      exact Or.inr ⟨by omega, by omega, by omega⟩

/-- A digit for which there is no room rounds upwards from five on. -/
lemma isRead_bump {m next : Magnitude} {c : Char} {cs : List Char}
    (hds : ∀ d ∈ c :: cs, d.isDigit) (hroom : m.NoRoom (c :: cs)) (hhigh : 5 ≤ digitValue c)
    (hnext : m.bump? = some next) : next.IsRead (m.followed (c :: cs)) := by
  have hpos : ofDigits (c :: cs) ≠ 0 := by
    rw [Text.ofDigits_cons]
    positivity
  have hlower : m.value < m.followed (c :: cs) :=
    lt_of_le_of_ne (m.value_le_followed _) fun h => hpos ((m.followed_eq_value_iff _).1 h.symm)
  have hupper := m.followed_lt hds
  constructor
  · intro hfits
    exact absurd (ofDigits_eq_zero_of_fits hds hroom hfits) hpos
  · have hplace : (0 : ℚ) < 1 / 10 ^ m.places := by positivity
    rw [abs_lt]
    rcases bump?_eq_some hnext with ⟨hunits, hplaces⟩ | ⟨-, hunits, hplaces⟩
    · have hvalue : next.value = m.value + 1 / 10 ^ m.places := by
        rw [value, value, hunits, hplaces, Nat.cast_add, Nat.cast_one, add_div]
      rw [hvalue, hplaces]
      constructor <;> linarith
    · have hvalue : next.value = m.value + 5 * (1 / 10 ^ m.places) := by
        have hcast : (next.units : ℚ) * 10 = m.units + 5 := by exact_mod_cast hunits
        rw [value, value, ← hplaces, pow_succ]
        field_simp
        exact hcast
      have hlast : (1 : ℚ) / 10 ^ next.places = 10 * (1 / 10 ^ m.places) := by
        rw [← hplaces, pow_succ]
        field_simp
      rw [hvalue, hlast]
      constructor <;> linarith
  · intro _
    have hlt := m.units_lt
    rcases bump?_eq_some hnext with ⟨hunits, hplaces⟩ | ⟨hlimit, hunits, hplaces⟩
    · rw [hunits, hplaces]
      refine hroom.imp id ?_
      rintro ⟨_, _, ⟨⟩, hlarge⟩
      have hdigit := Text.digitValue_lt (hds c List.mem_cons_self)
      omega
    · rw [limit_eq] at *
      omega

lemma noRoom_of_pushPlace? {m : Magnitude} {c : Char} (h : m.pushPlace? (digitValue c) = none)
    (cs : List Char) : m.NoRoom (c :: cs) := by
  rcases ofParts?_eq_none_iff.1 h with hlarge | hplaces
  · exact Or.inr ⟨c, cs, rfl, hlarge⟩
  · exact Or.inl (Nat.le_antisymm m.places_le (Nat.le_of_lt_succ hplaces))

end Magnitude

end PaymentPlans
