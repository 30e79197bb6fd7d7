/-
# The written form of an amount

An amount is written with its sign, all its digits and all its places, and what is written is
read as the same amount again.  The texts that are shown the way they were typed are exactly the
canonical ones: no zero in front of another digit, no separator, no exponent, no sign `+`, and no
sign at all in front of a zero.

The one amount that cannot be typed is a zero with a sign, which only a number that is too small
to show leaves behind; it is written with its sign and read without.
-/
import PaymentPlans.Amount.Reader
import PaymentPlans.Proofs.Text.Digits

namespace PaymentPlans

namespace Amount

/-- A zero with a sign. -/
def IsNegativeZero (a : Amount) : Prop := a.isNegative ∧ a.magnitude.units = 0

/-- The text of a number with these digits before and behind the point. -/
def numeral (negative : Bool) (whole fraction : List Char) : List Char :=
  (if negative then ['-'] else []) ++
    (whole ++ if fraction = [] then [] else '.' :: fraction)

/-- The parts of a canonical text: its sign, and its digits before and behind the point. -/
structure IsCanonicalNumeral (negative : Bool) (whole fraction : List Char) : Prop where
  digits : ∀ c ∈ whole ++ fraction, c.isDigit
  /-- There is a digit before the point, and no zero in front of another one. -/
  front : whole = ['0'] ∨ ∃ c cs, whole = c :: cs ∧ c ≠ '0'
  places : fraction.length ≤ 28
  /-- All digits, read as one number, fit. -/
  fits : Text.ofDigits (whole ++ fraction) < 2 ^ 96
  /-- A zero has no sign. -/
  sign : negative → Text.ofDigits (whole ++ fraction) ≠ 0

/-- A text is the canonical one of an amount. -/
def IsCanonical (text : String) : Prop :=
  ∃ negative whole fraction, IsCanonicalNumeral negative whole fraction ∧
    text = String.ofList (numeral negative whole fraction)

/-! ## Reading digits -/

open Text (digitValue digitsWidth followedBy followedBy_cons le_followedBy ofDigits zero_followedBy)

/-- Digits before the point are read into the units, if they fit. -/
lemma readWhole_digits {ds : List Char} (hds : ∀ c ∈ ds, c.isDigit) {m next : Magnitude}
    (hunits : next.units = followedBy m.units ds) (hplaces : next.places = m.places) (seen : Bool)
    (rest : List Char) :
    readWhole m seen (ds ++ rest) = readWhole next (seen || !ds.isEmpty) rest := by
  induction ds generalizing m seen with
  | nil =>
    obtain rfl : next = m := Magnitude.eq_of_parts (by simpa using hunits) hplaces
    simp
  | cons c ds ih =>
    obtain ⟨hc, hds⟩ := List.forall_mem_cons.1 hds
    rw [followedBy_cons] at hunits
    have hfit : m.units * 10 + digitValue c < limit :=
      (hunits ▸ le_followedBy _ ds).trans_lt next.units_lt
    have hpush : m.pushWhole? (digitValue c) =
        some ⟨m.units * 10 + digitValue c, m.places, hfit, m.places_le⟩ :=
      Magnitude.ofParts?_eq_some_iff.2 ⟨rfl, rfl⟩
    rw [List.cons_append, readWhole, Text.digit?_of_isDigit hc]
    simp only [hpush]
    rw [ih (m := ⟨_, _, hfit, m.places_le⟩) hds hunits hplaces]
    simp

/-- Digits behind the point are read into the units and counted as places, if they fit. -/
lemma readFraction_digits {ds : List Char} (hds : ∀ c ∈ ds, c.isDigit) {m next : Magnitude}
    (hunits : next.units = followedBy m.units ds) (hplaces : next.places = m.places + ds.length) :
    readFraction m true ds = .ok next := by
  induction ds generalizing m with
  | nil =>
    obtain rfl : next = m := Magnitude.eq_of_parts (by simpa using hunits) hplaces
    rfl
  | cons c ds ih =>
    obtain ⟨hc, hds⟩ := List.forall_mem_cons.1 hds
    rw [followedBy_cons] at hunits
    rw [List.length_cons, Nat.add_comm ds.length, ← Nat.add_assoc] at hplaces
    have hfit : m.units * 10 + digitValue c < limit :=
      (hunits ▸ le_followedBy _ ds).trans_lt next.units_lt
    have hplace : m.places + 1 ≤ maxPlaces :=
      (hplaces ▸ Nat.le_add_right _ _).trans next.places_le
    have hpush : m.pushPlace? (digitValue c) =
        some ⟨m.units * 10 + digitValue c, m.places + 1, hfit, hplace⟩ :=
      Magnitude.ofParts?_eq_some_iff.2 ⟨rfl, rfl⟩
    rw [readFraction, Text.digit?_of_isDigit hc]
    simp only [hpush]
    exact ih hds hunits hplaces

/-- A numeral of digits is read as the number that they write, with its places. -/
lemma readWhole_numeral {whole fraction : List Char} (hdigits : ∀ c ∈ whole ++ fraction, c.isDigit)
    (hwhole : whole ≠ []) {m : Magnitude} (hunits : m.units = ofDigits (whole ++ fraction))
    (hplaces : m.places = fraction.length) :
    readWhole .zero false (whole ++ if fraction = [] then [] else '.' :: fraction) = .ok m := by
  obtain ⟨hw, hf⟩ := List.forall_mem_append.1 hdigits
  rw [Text.ofDigits_append] at hunits
  have hfit : ofDigits whole < limit := (hunits ▸ le_followedBy _ fraction).trans_lt m.units_lt
  have hseen : (false || !whole.isEmpty) = true := by simpa using hwhole
  let front : Magnitude := ⟨ofDigits whole, 0, hfit, Nat.zero_le _⟩
  have hfront : front.units = followedBy 0 whole := (zero_followedBy whole).symm
  rw [readWhole_digits (m := .zero) hw hfront rfl, hseen]
  by_cases hnone : fraction = []
  · subst hnone
    rw [if_pos rfl, readWhole, if_pos rfl]
    have hunits : m.units = ofDigits whole := hunits.trans (Text.followedBy_nil _)
    exact congrArg Except.ok (Magnitude.eq_of_parts hunits.symm hplaces.symm)
  · rw [if_neg hnone, readWhole]
    exact readFraction_digits hf hunits (hplaces.trans (Nat.zero_add _).symm)

/-- A text that starts with a digit has no sign. -/
lemma readPlain_of_isDigit {c : Char} (hc : c.isDigit) (cs : List Char) :
    readPlain (c :: cs) = (readWhole .zero false (c :: cs)).map (ofMagnitude false) := by
  unfold readPlain
  split
  · next heq => exact absurd heq (List.cons_ne_nil _ _)
  · next heq =>
    obtain ⟨rfl, -⟩ := List.cons.inj heq
    exact absurd hc (by decide)
  · next heq =>
    obtain ⟨rfl, -⟩ := List.cons.inj heq
    exact absurd hc (by decide)
  · rfl

/-- Such a numeral may have a sign. -/
lemma readPlain_numeral (negative : Bool) {whole fraction : List Char}
    (hdigits : ∀ c ∈ whole ++ fraction, c.isDigit) (hwhole : whole ≠ []) {m : Magnitude}
    (hunits : m.units = ofDigits (whole ++ fraction)) (hplaces : m.places = fraction.length) :
    readPlain (numeral negative whole fraction) = .ok (ofMagnitude negative m) := by
  have hread := readWhole_numeral hdigits hwhole hunits hplaces
  cases negative with
  | true =>
    rw [numeral, if_pos rfl, List.singleton_append, readPlain, hread]
    rfl
  | false =>
    obtain ⟨c, cs, rfl⟩ := List.exists_cons_of_ne_nil hwhole
    have hc : c.isDigit := hdigits c (by simp)
    rw [List.cons_append] at hread
    rw [numeral, if_neg (by decide), List.nil_append, List.cons_append, readPlain_of_isDigit hc,
      hread]
    rfl

lemma isBlank_of_isDigit {c : Char} (h : c.isDigit) : Text.isBlank c = false := by
  obtain ⟨hlow, hhigh⟩ := Char.isDigit_iff_toNat.1 h
  have hnine : '9'.toNat = 57 := rfl
  have hzero : '0'.toNat = 48 := rfl
  rw [← Bool.not_eq_true]
  simp only [Text.isBlank, Bool.or_eq_true, Bool.and_eq_true, decide_eq_true_eq, beq_iff_eq]
  omega

lemma isBlank_of_mem_numeral {negative : Bool} {whole fraction : List Char}
    (hdigits : ∀ c ∈ whole ++ fraction, c.isDigit) {c : Char}
    (hc : c ∈ numeral negative whole fraction) : Text.isBlank c = false := by
  obtain ⟨hw, hf⟩ := List.forall_mem_append.1 hdigits
  rcases List.mem_append.1 hc with hsign | hc
  · cases negative with
    | true =>
      rw [List.mem_singleton.1 hsign]
      rfl
    | false => exact absurd hsign List.not_mem_nil
  · rcases List.mem_append.1 hc with hc | hc
    · exact isBlank_of_isDigit (hw c hc)
    · by_cases hnone : fraction = []
      · rw [if_pos hnone] at hc
        exact absurd hc List.not_mem_nil
      · rw [if_neg hnone] at hc
        rcases List.mem_cons.1 hc with rfl | hc
        · rfl
        · exact isBlank_of_isDigit (hf c hc)

/-- The text of a numeral is read as the amount with its sign, its digits and its places. -/
lemma ofText_numeral (negative : Bool) {whole fraction : List Char}
    (hdigits : ∀ c ∈ whole ++ fraction, c.isDigit) (hwhole : whole ≠ []) {m : Magnitude}
    (hunits : m.units = ofDigits (whole ++ fraction)) (hplaces : m.places = fraction.length) :
    ofText (String.ofList (numeral negative whole fraction)) = .ok (ofMagnitude negative m) := by
  have htrim : Text.trim (numeral negative whole fraction) = numeral negative whole fraction :=
    Text.trim_eq_self
      (fun _ hfirst => isBlank_of_mem_numeral hdigits (List.mem_of_head? hfirst))
      (fun _ hlast => isBlank_of_mem_numeral hdigits (List.mem_of_getLast? hlast))
  rw [ofText, String.toList_ofList, htrim, readTrimmed,
    readPlain_numeral negative hdigits hwhole hunits hplaces]

/-! ## The digits that are written -/

/-- The digits that are written before the point. -/
def wholeDigits (m : Magnitude) : List Char :=
  let ds := digitsWidth (m.places + 1) m.units
  ds.take (ds.length - m.places)

/-- The digits that are written behind the point. -/
def placeDigits (m : Magnitude) : List Char :=
  let ds := digitsWidth (m.places + 1) m.units
  ds.drop (ds.length - m.places)

lemma wholeDigits_append_placeDigits (m : Magnitude) :
    wholeDigits m ++ placeDigits m = digitsWidth (m.places + 1) m.units :=
  List.take_append_drop _ _

lemma isDigit_of_mem_written {m : Magnitude} : ∀ c ∈ wholeDigits m ++ placeDigits m, c.isDigit := by
  intro c hc
  rw [wholeDigits_append_placeDigits] at hc
  exact Text.isDigit_of_mem_digitsWidth hc

lemma ofDigits_written (m : Magnitude) : ofDigits (wholeDigits m ++ placeDigits m) = m.units := by
  rw [wholeDigits_append_placeDigits, Text.ofDigits_digitsWidth]

lemma length_placeDigits (m : Magnitude) : (placeDigits m).length = m.places := by
  have hwidth := Text.width_le_length_digitsWidth (m.places + 1) m.units
  rw [placeDigits, List.length_drop]
  omega

lemma length_wholeDigits (m : Magnitude) :
    (wholeDigits m).length + m.places = (digitsWidth (m.places + 1) m.units).length := by
  rw [← wholeDigits_append_placeDigits, List.length_append, length_placeDigits]

lemma wholeDigits_ne_nil (m : Magnitude) : wholeDigits m ≠ [] := by
  have hwidth := Text.width_le_length_digitsWidth (m.places + 1) m.units
  have hlength := length_wholeDigits m
  refine List.length_pos_iff.1 ?_
  omega

lemma chars_eq_numeral (a : Amount) :
    a.chars = numeral a.isNegative (wholeDigits a.magnitude) (placeDigits a.magnitude) := by
  have hnone : placeDigits a.magnitude = [] ↔ a.magnitude.places = 0 := by
    rw [← length_placeDigits, List.length_eq_zero_iff]
  have hmagnitude : magnitudeText a.magnitude = wholeDigits a.magnitude ++
      if placeDigits a.magnitude = [] then [] else '.' :: placeDigits a.magnitude := by
    by_cases hzero : a.magnitude.places = 0
    · rw [if_pos (hnone.2 hzero), List.append_nil]
      simp only [magnitudeText, if_pos hzero]
      rfl
    · rw [if_neg (mt hnone.1 hzero)]
      simp only [magnitudeText, if_neg hzero]
      rfl
  rw [chars, numeral, ← hmagnitude]
  cases a.isNegative <;> rfl

/-- What is written is read again, but for the sign of a zero. -/
lemma ofText_text (a : Amount) : ofText a.text = .ok (ofMagnitude a.isNegative a.magnitude) := by
  rw [text, chars_eq_numeral]
  exact ofText_numeral a.isNegative isDigit_of_mem_written (wholeDigits_ne_nil _)
    (ofDigits_written _).symm (length_placeDigits _).symm

lemma ofMagnitude_eq_self_iff (a : Amount) :
    ofMagnitude a.isNegative a.magnitude = a ↔ ¬ a.IsNegativeZero := by
  obtain ⟨negative, m⟩ := a
  cases negative <;> simp [ofMagnitude, IsNegativeZero]

/-- Exactly the amounts that are no zero with a sign are read from what is written. -/
lemma ofText_text_eq_self_iff (a : Amount) : ofText a.text = .ok a ↔ ¬ a.IsNegativeZero := by
  rw [ofText_text, ← ofMagnitude_eq_self_iff, Except.ok.injEq]

/-! ## Canonical texts -/

/-- There is no zero in front of what is written but the one before the point. -/
lemma wholeDigits_front (m : Magnitude) :
    wholeDigits m = ['0'] ∨ ∃ c cs, wholeDigits m = c :: cs ∧ c ≠ '0' := by
  obtain ⟨c, cs, hwhole⟩ := List.exists_cons_of_ne_nil (wholeDigits_ne_nil m)
  by_cases hc : c = '0'
  · subst hc
    have hall := wholeDigits_append_placeDigits m
    rw [hwhole, List.cons_append] at hall
    have hlength := Text.length_of_digitsWidth_eq_zero_cons (Nat.succ_pos _) hall.symm
    rw [List.length_append, length_placeDigits] at hlength
    have hnil : cs = [] := List.length_eq_zero_iff.1 (by omega)
    rw [hwhole, hnil]
    exact Or.inl rfl
  · exact Or.inr ⟨c, cs, hwhole, hc⟩

lemma isCanonical_text {a : Amount} (h : ¬ a.IsNegativeZero) : IsCanonical a.text := by
  refine ⟨a.isNegative, wholeDigits a.magnitude, placeDigits a.magnitude, ?_,
    congrArg String.ofList a.chars_eq_numeral⟩
  constructor
  · exact isDigit_of_mem_written
  · exact wholeDigits_front _
  · rw [length_placeDigits]
    exact a.magnitude.places_le
  · rw [ofDigits_written]
    exact a.magnitude.units_lt
  · intro hnegative hzero
    rw [ofDigits_written] at hzero
    exact h ⟨hnegative, hzero⟩

/-- The digits of a canonical text are those that are written for the number that they write. -/
lemma IsCanonicalNumeral.written {negative : Bool} {whole fraction : List Char}
    (h : IsCanonicalNumeral negative whole fraction) {m : Magnitude}
    (hunits : m.units = ofDigits (whole ++ fraction)) (hplaces : m.places = fraction.length) :
    wholeDigits m = whole ∧ placeDigits m = fraction := by
  have hall : digitsWidth (m.places + 1) m.units = whole ++ fraction := by
    rw [hunits, hplaces]
    rcases h.front with rfl | ⟨c, cs, rfl, hc⟩
    · exact Text.digitsWidth_ofDigits_of_length h.digits (Nat.succ_pos _)
        (by rw [List.length_append, List.length_singleton, Nat.add_comm])
    · refine Text.digitsWidth_ofDigits_of_ne_zero h.digits hc (Nat.succ_le_succ ?_)
      exact (Nat.le_add_left _ _).trans_eq List.length_append.symm
  rw [← wholeDigits_append_placeDigits] at hall
  refine List.append_inj' hall ?_
  rw [length_placeDigits, hplaces]

/-- The canonical texts are those that are shown as they were typed. -/
lemma isCanonical_iff (t : String) : IsCanonical t ↔ ∃ a, ofText t = .ok a ∧ a.text = t := by
  constructor
  · rintro ⟨negative, whole, fraction, h, rfl⟩
    have hwhole : whole ≠ [] := by
      rcases h.front with rfl | ⟨c, cs, rfl, -⟩ <;> exact List.cons_ne_nil _ _
    let m : Magnitude := ⟨ofDigits (whole ++ fraction), fraction.length, h.fits, h.places⟩
    obtain ⟨hw, hp⟩ := h.written (m := m) rfl rfl
    have hsign : (ofMagnitude negative m).isNegative = negative := by
      cases negative with
      | true => simpa [ofMagnitude] using h.sign rfl
      | false => rfl
    refine ⟨ofMagnitude negative m, ofText_numeral negative h.digits hwhole rfl rfl, ?_⟩
    rw [text, chars_eq_numeral, hsign]
    simp only [ofMagnitude, hw, hp]
  · rintro ⟨a, hread, rfl⟩
    exact isCanonical_text ((ofText_text_eq_self_iff a).1 hread)

/-- What is written tells the amount, its sign included. -/
lemma text_injective : Function.Injective text := by
  intro a b hsame
  have hread : ofMagnitude a.isNegative a.magnitude = ofMagnitude b.isNegative b.magnitude :=
    Except.ok.inj ((ofText_text a).symm.trans ((congrArg ofText hsame).trans (ofText_text b)))
  have hmagnitude : a.magnitude = b.magnitude := (Amount.mk.inj hread).2
  -- The digits are the same then, and so are the signs in front of them.
  have hchars : a.chars = b.chars := String.ofList_injective hsame
  rw [chars_eq_numeral, chars_eq_numeral, hmagnitude] at hchars
  have hsign := List.append_cancel_right hchars
  obtain ⟨negative, m⟩ := a
  obtain ⟨negative', m'⟩ := b
  cases hmagnitude
  cases negative <;> cases negative' <;> first | rfl | exact nomatch hsign

end Amount

end PaymentPlans
