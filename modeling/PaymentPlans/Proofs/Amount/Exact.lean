/-
# Which texts are read exactly

Every text that is read at all is read as the number that it writes or as one that differs from it
by less than one in the last place.  It is read exactly if the number is one that an amount can
be, and if that is so of the number before the exponent, too.
-/
import Mathlib.Data.List.TakeWhile
import PaymentPlans.Proofs.Amount.Moving
import PaymentPlans.Proofs.Traversal

namespace PaymentPlans

open Text (digitValue digitsIn digitsIn_cons_of_isDigit digitsIn_cons_of_not_isDigit followedBy
  followedBy_cons ofDigits)

namespace Amount

/-! ## Numerals without exponent -/

lemma isRead_of_roundOn {m next : Magnitude} {c : Char} {cs : List Char}
    (hds : ∀ d ∈ c :: cs, d.isDigit) (hroom : m.NoRoom (c :: cs))
    (h : roundOn m (digitValue c) = .ok next) : next.IsRead (m.followed (c :: cs)) := by
  unfold roundOn at h
  split at h
  · next hlow =>
    obtain rfl := Except.ok.inj h
    refine Magnitude.isRead_cut hds hroom (hroom.imp id ?_)
    rintro ⟨_, _, ⟨⟩, hlarge⟩
    rw [Magnitude.limit_eq] at hlarge ⊢
    omega
  · next hhigh =>
    split at h
    · next hnext =>
      obtain rfl := Except.ok.inj h
      exact Magnitude.isRead_bump hds hroom (Nat.le_of_not_lt hhigh) hnext
    · exact nomatch h

/-- What stands behind the point is read as the digits in it. -/
lemma isRead_of_readFraction {m m' : Magnitude} {seen : Bool} {cs : List Char}
    (h : readFraction m seen cs = .ok m') : m'.IsRead (m.followed (digitsIn cs)) := by
  induction cs generalizing m seen with
  | nil =>
    rw [readFraction] at h
    split at h
    · obtain rfl := Except.ok.inj h
      simpa [digitsIn] using m.isRead_value
    · exact nomatch h
  | cons c cs ih =>
    rw [readFraction] at h
    by_cases hc : c.isDigit
    · have hds : ∀ d ∈ c :: digitsIn cs, d.isDigit :=
        List.forall_mem_cons.2 ⟨hc, fun _ => Text.isDigit_of_mem_digitsIn⟩
      rw [Text.digit?_of_isDigit hc] at h
      rw [digitsIn_cons_of_isDigit hc]
      cases hpush : m.pushPlace? (digitValue c) with
      | some next =>
        simp only [hpush] at h
        rw [Magnitude.followed_cons hpush]
        exact ih h
      | none =>
        simp only [hpush] at h
        obtain ⟨rounded, hround, hrest⟩ := bind_eq_ok.1 h
        obtain ⟨-, -, rfl⟩ := map_eq_ok.1 hrest
        exact isRead_of_roundOn hds (Magnitude.noRoom_of_pushPlace? hpush _) hround
    · have hds : ∀ d ∈ digitsIn cs, d.isDigit := fun _ => Text.isDigit_of_mem_digitsIn
      rw [Text.digit?_of_not_isDigit hc] at h
      rw [digitsIn_cons_of_not_isDigit hc]
      simp only at h
      split at h
      · split at h
        · next hends =>
          -- Nothing behind this separator counts, and all places are taken.
          obtain ⟨-, -, hm⟩ := bind_eq_ok.1 h
          obtain rfl := Except.ok.inj hm
          have hplaces : m.places = maxPlaces := by
            rw [endsAtSeparator, Bool.and_eq_true] at hends
            exact eq_of_beq hends.1
          exact Magnitude.isRead_cut hds (Or.inl hplaces) (Or.inl hplaces)
        · exact ih h
      · exact nomatch h

/-- A numeral without sign is read as the digits in it, those behind the point as places. -/
lemma isRead_of_readWhole {m m' : Magnitude} {seen : Bool} {cs : List Char}
    (h : readWhole m seen cs = .ok m') (hplaces : m.places = 0) :
    m'.IsRead (followedBy m.units (digitsIn cs) / 10 ^ placesIn cs) := by
  induction cs generalizing m seen with
  | nil =>
    rw [readWhole] at h
    split at h
    · obtain rfl := Except.ok.inj h
      have hvalue := m.isRead_value
      rw [Magnitude.value, hplaces] at hvalue
      simpa [digitsIn, placesIn] using hvalue
    · cases h
  | cons c cs ih =>
    rw [readWhole] at h
    by_cases hc : c.isDigit
    · have hpoint : c ≠ '.' := by
        rintro rfl
        cases hc
      rw [Text.digit?_of_isDigit hc] at h
      cases hpush : m.pushWhole? (digitValue c) with
      | none => simp only [hpush, reduceCtorEq] at h
      | some next =>
        simp only [hpush] at h
        obtain ⟨hunits, hnext⟩ := Magnitude.ofParts?_eq_some_iff.1 hpush
        rw [placesIn_cons hpoint, digitsIn_cons_of_isDigit hc, followedBy_cons, ← hunits]
        exact ih h (hnext.trans hplaces)
    · rw [Text.digit?_of_not_isDigit hc] at h
      rw [digitsIn_cons_of_not_isDigit hc]
      simp only at h
      split at h
      · next hpoint =>
        obtain rfl := eq_of_beq hpoint
        have hread := isRead_of_readFraction h
        rwa [Magnitude.followed, hplaces, Nat.zero_add] at hread
      · next hpoint =>
        rw [placesIn_cons (by simpa using hpoint)]
        split at h
        · exact ih h hplaces
        · cases h

lemma sizeWritten_cons {c : Char} (hc : ¬ c.isDigit) (hpoint : c ≠ '.') (cs : List Char) :
    sizeWritten (c :: cs) = sizeWritten cs := by
  rw [sizeWritten, sizeWritten, digitsIn_cons_of_not_isDigit hc, placesIn_cons hpoint]

/-- A numeral is read with its sign, if its digits are not all zeros. -/
lemma isRead_of_readPlain {cs : List Char} {a : Amount} (h : readPlain cs = .ok a) :
    ∃ m : Magnitude, m.IsRead (sizeWritten cs) ∧
      a = ofMagnitude (cs.head? == some '-') m := by
  have hwhole : ∀ {ds m}, readWhole .zero false ds = .ok m → m.IsRead (sizeWritten ds) := by
    intro ds m hm
    simpa [sizeWritten, Magnitude.zero] using isRead_of_readWhole hm rfl
  unfold readPlain at h
  split at h
  · cases h
  · obtain ⟨m, hm, rfl⟩ := map_eq_ok.1 h
    refine ⟨m, ?_, rfl⟩
    rw [sizeWritten_cons (by decide) (by decide)]
    exact hwhole hm
  · obtain ⟨m, hm, rfl⟩ := map_eq_ok.1 h
    refine ⟨m, ?_, rfl⟩
    rw [sizeWritten_cons (by decide) (by decide)]
    exact hwhole hm
  · next hminus _ =>
    obtain ⟨m, hm, rfl⟩ := map_eq_ok.1 h
    refine ⟨m, hwhole hm, ?_⟩
    have hhead : (cs.head? == some '-') = false := by
      rw [beq_eq_false_iff_ne]
      intro hhead
      obtain ⟨ds, rfl⟩ := List.head?_eq_some_iff.1 hhead
      exact hminus ds rfl
    rw [hhead]

/-! ## A numeral without exponent has no letter of one -/

lemma isExponentMark_eq_false_of_isDigit {c : Char} (h : c.isDigit) : isExponentMark c = false := by
  rw [isExponentMark, Bool.or_eq_false_iff, beq_eq_false_iff_ne, beq_eq_false_iff_ne]
  constructor <;> rintro rfl <;> exact nomatch h

lemma noMark_of_checkRest {cs : List Char} (h : checkRest cs = .ok ()) :
    ∀ c ∈ cs, isExponentMark c = false := by
  induction cs with
  | nil => exact nofun
  | cons c cs ih =>
    rw [checkRest] at h
    split at h
    · next hc =>
      refine List.forall_mem_cons.2 ⟨?_, ih h⟩
      rcases Bool.or_eq_true_iff.1 hc with hdigit | hline
      · exact isExponentMark_eq_false_of_isDigit hdigit
      · rw [eq_of_beq hline]
        rfl
    · exact nomatch h

lemma noMark_of_readFraction {m m' : Magnitude} {seen : Bool} {cs : List Char}
    (h : readFraction m seen cs = .ok m') : ∀ c ∈ cs, isExponentMark c = false := by
  induction cs generalizing m seen with
  | nil => exact nofun
  | cons c cs ih =>
    rw [readFraction] at h
    refine List.forall_mem_cons.2 ?_
    by_cases hc : c.isDigit
    · refine ⟨isExponentMark_eq_false_of_isDigit hc, ?_⟩
      rw [Text.digit?_of_isDigit hc] at h
      cases hpush : m.pushPlace? (digitValue c) with
      | some next =>
        simp only [hpush] at h
        exact ih h
      | none =>
        simp only [hpush] at h
        obtain ⟨_, -, hrest⟩ := bind_eq_ok.1 h
        obtain ⟨_, hcheck, -⟩ := map_eq_ok.1 hrest
        exact noMark_of_checkRest hcheck
    · rw [Text.digit?_of_not_isDigit hc] at h
      simp only at h
      split at h
      · next hline =>
        obtain rfl := eq_of_beq (Bool.and_eq_true_iff.1 hline).1
        refine ⟨rfl, ?_⟩
        split at h
        · obtain ⟨_, hcheck, -⟩ := bind_eq_ok.1 h
          exact noMark_of_checkRest hcheck
        · exact ih h
      · exact nomatch h

lemma noMark_of_readWhole {m m' : Magnitude} {seen : Bool} {cs : List Char}
    (h : readWhole m seen cs = .ok m') : ∀ c ∈ cs, isExponentMark c = false := by
  induction cs generalizing m seen with
  | nil => exact nofun
  | cons c cs ih =>
    rw [readWhole] at h
    refine List.forall_mem_cons.2 ?_
    by_cases hc : c.isDigit
    · refine ⟨isExponentMark_eq_false_of_isDigit hc, ?_⟩
      rw [Text.digit?_of_isDigit hc] at h
      cases hpush : m.pushWhole? (digitValue c) with
      | some next =>
        simp only [hpush] at h
        exact ih h
      | none => simp only [hpush, reduceCtorEq] at h
    · rw [Text.digit?_of_not_isDigit hc] at h
      simp only at h
      split at h
      · next hpoint =>
        rw [eq_of_beq hpoint]
        exact ⟨rfl, noMark_of_readFraction h⟩
      · split at h
        · next hline =>
          obtain rfl := eq_of_beq (Bool.and_eq_true_iff.1 hline).1
          exact ⟨rfl, ih h⟩
        · exact nomatch h

lemma noMark_of_readPlain {cs : List Char} {a : Amount} (h : readPlain cs = .ok a) :
    ∀ c ∈ cs, isExponentMark c = false := by
  unfold readPlain at h
  split at h
  · exact nofun
  · obtain ⟨_, hm, -⟩ := map_eq_ok.1 h
    exact List.forall_mem_cons.2 ⟨rfl, noMark_of_readWhole hm⟩
  · obtain ⟨_, hm, -⟩ := map_eq_ok.1 h
    exact List.forall_mem_cons.2 ⟨rfl, noMark_of_readWhole hm⟩
  · obtain ⟨_, hm, -⟩ := map_eq_ok.1 h
    exact noMark_of_readWhole hm

/-! ## Numerals with an exponent -/

lemma readExponent_eq_ok {cs : List Char} {exponent : Nat} (h : readExponent cs = .ok exponent) :
    ofDigits (digitsIn cs) = exponent := by
  have hdigits : ∀ ds, (if ds.isEmpty || !ds.all Char.isDigit || 1 <<< 32 ≤ ofDigits ds then
      .error .unreadableExponent else .ok (ofDigits ds) : Except Fault Nat) = .ok exponent →
      ofDigits (digitsIn ds) = exponent := by
    intro ds hds
    split at hds
    · exact nomatch hds
    · next hgood =>
      have hall : ds.all Char.isDigit := by
        by_contra hsome
        exact hgood (by simp [hsome])
      rw [Text.digitsIn_eq_self (List.all_eq_true.1 hall), Except.ok.inj hds]
  unfold readExponent at h
  split at h
  · next ds => exact hdigits ds h
  · exact hdigits cs h

lemma value_of_moved {negative : Bool} {m moved : Magnitude}
    (hzero : m.units = 0 → moved.units = 0) :
    ({ ofMagnitude negative m with magnitude := moved } : Amount).value =
      signFactor negative * moved.value := by
  rw [value_mk]
  by_cases hm : m.units = 0
  · rw [Magnitude.value, hzero hm]
    simp
  · rw [ofMagnitude_of_units_ne_zero _ _ hm]

/-- An amount is what is read from the characters before and behind the letter of an exponent:
with the sign that stands in front, a size whose point is moved. -/
def IsReadFrom (a : Amount) (base exponent : List Char) : Prop :=
  ∃ m : Magnitude,
    IsMoved m (sizeWritten base) (sizeWritten base * 10 ^ exponentWritten exponent) ∧
      a.value = signFactor (base.head? == some '-') * m.value ∧ a.places = m.places

lemma isReadFrom_of_readScientific {base exponent : List Char} {a : Amount}
    (h : readScientific base exponent = .ok a) : IsReadFrom a base exponent := by
  unfold readScientific at h
  obtain ⟨b, hb, hrest⟩ := bind_eq_ok.1 h
  obtain ⟨m, hm, rfl⟩ := isRead_of_readPlain hb
  clear h
  simp only at hrest
  split at hrest
  · next ds =>
    obtain ⟨moved, hmoved, hdone⟩ := bind_eq_ok.1 hrest
    obtain ⟨e, he, hshift⟩ := bind_eq_ok.1 hmoved
    obtain rfl := Except.ok.inj hdone
    refine ⟨moved, ?_, value_of_moved (units_eq_zero_of_shiftLeft hshift), rfl⟩
    have hwritten : exponentWritten ('-' :: ds) = -e := by
      rw [← readExponent_eq_ok he]
      rfl
    rw [hwritten, zpow_neg, zpow_natCast]
    exact isMoved_of_shiftLeft hm hshift
  · next hminus =>
    obtain ⟨moved, hmoved, hdone⟩ := bind_eq_ok.1 hrest
    obtain ⟨e, he, hshift⟩ := bind_eq_ok.1 hmoved
    obtain rfl := Except.ok.inj hdone
    refine ⟨moved, ?_, value_of_moved (units_eq_zero_of_shiftRight hshift), rfl⟩
    have hhead : exponent.head? ≠ some '-' := by
      intro hhead
      obtain ⟨ds, rfl⟩ := List.head?_eq_some_iff.1 hhead
      exact hminus ds rfl
    have hwritten : exponentWritten exponent = e := by
      rw [exponentWritten, if_neg hhead, readExponent_eq_ok he]
    rw [hwritten, zpow_natCast]
    exact isMoved_of_shiftRight hm hshift

lemma isReadFrom_of_readPlain {cs : List Char} {a : Amount} (h : readPlain cs = .ok a) :
    IsReadFrom a cs [] := by
  obtain ⟨m, hm, rfl⟩ := isRead_of_readPlain h
  refine ⟨m, ?_, value_ofMagnitude _ _, rfl⟩
  have hnone : exponentWritten [] = 0 := rfl
  rw [hnone, zpow_zero, mul_one]
  exact isMoved_of_isRead hm

lemma isReadFrom_of_readTrimmed {cs : List Char} {a : Amount} (h : readTrimmed cs = .ok a) :
    IsReadFrom a (baseOf cs) (exponentOf cs) := by
  unfold readTrimmed at h
  split at h
  · next hplain =>
    obtain rfl := Except.ok.inj h
    have hmark : ∀ c ∈ cs, !isExponentMark c := by
      intro c hc
      rw [noMark_of_readPlain hplain c hc]
      rfl
    rw [baseOf, exponentOf, List.takeWhile_eq_self_iff.2 hmark, List.dropWhile_eq_nil_iff.2 hmark]
    exact isReadFrom_of_readPlain hplain
  · exact nomatch h
  · next hdrop =>
    rw [exponentOf, hdrop]
    exact isReadFrom_of_readScientific h

/-- **An amount is the number that its text writes exactly if an amount can be that number**, and
the number before the exponent as well.  A text is not refused for writing another one: the amount
then differs from it, by less than one in the last place. -/
theorem value_eq_number_iff {text : String} {a : Amount} (h : ofText text = .ok a) :
    (a.value = number text ↔ Holds (baseNumber text) ∧ Holds (number text)) ∧
      |a.value - number text| < 1 / 10 ^ a.places := by
  obtain ⟨m, hmoved, hvalue, hplaces⟩ := isReadFrom_of_readTrimmed h
  have hsize := sizeWritten_nonneg (baseOf (Text.trim text.toList))
  have hafter : 0 ≤ sizeWritten (baseOf (Text.trim text.toList)) *
      10 ^ exponentWritten (exponentOf (Text.trim text.toList)) :=
    mul_nonneg hsize (zpow_nonneg (by norm_num) _)
  have hsign : signFactor ((baseOf (Text.trim text.toList)).head? == some '-') ≠ 0 := by
    cases (baseOf (Text.trim text.toList)).head? == some '-' <;> decide
  rw [hvalue, hplaces, number, baseNumber, plainNumber, mul_assoc, holds_iff_fits hsize,
    holds_iff_fits hafter, mul_right_inj' hsign, ← mul_sub, abs_signFactor_mul]
  exact ⟨hmoved.exact_iff, hmoved.close⟩

/-- A text with a sign, a separator and an exponent. -/
def elaborate : String := "-1_0.50e1"

theorem value_eq_number_iff_elaborate :
    let a : Amount := ⟨true, 1050, 1, by decide, by decide⟩
    ofText elaborate = .ok a ∧
      (a.value = number elaborate ↔ Holds (baseNumber elaborate) ∧ Holds (number elaborate)) ∧
        |a.value - number elaborate| < 1 / 10 ^ a.places :=
  have hread : ofText elaborate = .ok ⟨true, 1050, 1, by decide, by decide⟩ := by rfl
  ⟨hread, value_eq_number_iff hread⟩

/-- A text with one place more than an amount can have. -/
def tooFine : String := "0.00000000000000000000000000005"

/-- A text whose number no amount can be is read nevertheless, as twice that number. -/
theorem ofText_tooFine :
    let a : Amount := ⟨false, 1, 28, by decide, by decide⟩
    ofText tooFine = .ok a ∧ a.value = 2 * number tooFine ∧ a.value ≠ number tooFine ∧
      ¬ Holds (number tooFine) := by
  intro a
  have hnumber : number tooFine = (5 : Nat) / 10 ^ (28 + 1) := by
    have hbase : baseNumber tooFine = signFactor false * ((5 : Nat) / 10 ^ 29) := rfl
    have hexponent : exponentWritten (exponentOf (Text.trim tooFine.toList)) = 0 := rfl
    rw [number, hbase, hexponent]
    norm_num [signFactor]
  have hvalue : a.value = 1 / 10 ^ 28 := by
    norm_num [a, value_mk, signFactor, Magnitude.value]
  refine ⟨rfl, ?_, ?_, ?_⟩
  · rw [hvalue, hnumber]
    norm_num
  · rw [hvalue, hnumber]
    norm_num
  · rw [hnumber]
    intro hholds
    have hfits : Magnitude.Fits ((5 : Nat) / 10 ^ (28 + 1)) := by
      refine (holds_iff_fits (by positivity) false).1 ?_
      simpa [signFactor] using hholds
    obtain ⟨n, hn⟩ := hfits
    exact absurd (Magnitude.pow_dvd_of_value_eq hn n.places_le) (by decide)

end Amount

end PaymentPlans
