/-
# How moments are spelled

A day is spelled in one way.  A time may have any number of digits behind its second; a zone may be
a letter of either case; and between day and time there may be a letter of either case or a blank.
A moment is taken from any of its spellings, and the written form is one of them.
-/
import PaymentPlans.Proofs.Text.Front
import PaymentPlans.Toml.Moment

namespace PaymentPlans.Toml

open Text (StopsAt digitsWidth)

/-! ## Numbers -/

/-- So many digits, which write a number between two bounds. -/
structure IsNumber (count low high n : Nat) (ds : List Char) : Prop where
  length : ds.length = count
  digits : ∀ d ∈ ds, d.isDigit
  value : Text.ofDigits ds = n
  low_le : low ≤ n
  le_high : n ≤ high

section Numbers

variable {count low high n : Nat} {ds cs rest : List Char}

lemma scanNumber_eq_some_iff : scanNumber count low high cs = some (n, rest) ↔
    ∃ ds, cs = ds ++ rest ∧ IsNumber count low high n ds := by
  rw [scanNumber]
  constructor
  · intro h
    split at h
    · next htaken =>
      obtain ⟨hvalue, hrest⟩ := Prod.mk.inj (Option.some.inj h)
      obtain ⟨hlength, hdigits, hlow, hhigh⟩ := htaken
      rw [List.all_eq_true] at hdigits
      rw [hvalue] at hlow hhigh
      refine ⟨cs.take count, ?_, hlength, hdigits, hvalue, hlow, hhigh⟩
      rw [← hrest, List.take_append_drop]
    · exact nomatch h
  · rintro ⟨ds, rfl, hlength, hdigits, hvalue, hlow, hhigh⟩
    have htake : (ds ++ rest).take count = ds := by rw [← hlength, List.take_left]
    have hdrop : (ds ++ rest).drop count = rest := by rw [← hlength, List.drop_left]
    simp only [htake, hdrop, hvalue]
    exact if_pos ⟨hlength, List.all_eq_true.2 hdigits, hlow, hhigh⟩

/-- A number is taken from its digits, whatever follows them. -/
lemma IsNumber.scanNumber (h : IsNumber count low high n ds) (rest : List Char) :
    scanNumber count low high (ds ++ rest) = some (n, rest) :=
  scanNumber_eq_some_iff.2 ⟨ds, rfl, h⟩

/-- A number of so many digits is spelled in one way. -/
lemma IsNumber.eq_digitsWidth (h : IsNumber count low high n ds) (hcount : 0 < count) :
    ds = digitsWidth count n := by
  rw [← h.value, Text.digitsWidth_ofDigits_of_length h.digits hcount h.length]

lemma scanChar_eq_some {c : Char} {cs rest : List Char} (h : scanChar c cs = some ((), rest)) :
    cs = c :: rest := by
  cases cs with
  | nil => exact nomatch h
  | cons d cs =>
    rw [scanChar] at h
    split at h
    · next hd => rw [hd, (Prod.mk.inj (Option.some.inj h)).2]
    · exact nomatch h

lemma scanChar_self (c : Char) (cs : List Char) : scanChar c (c :: cs) = some ((), cs) := if_pos rfl

end Numbers

/-! ## The parts of a moment -/

/-- The spelling of a day of the calendar. -/
inductive SpellsDay : Day → List Char → Prop where
  | mk {year month day : Nat} {ys ms ds : List Char} (hyear : IsNumber 4 0 9999 year ys)
      (hmonth : IsNumber 2 1 12 month ms)
      (hday : IsNumber 2 1 (Date.daysInMonth year month) day ds) :
      SpellsDay ⟨year, month, day⟩ (ys ++ '-' :: (ms ++ '-' :: ds))

/-- The spellings of the fraction of a second: any digits, of which the first nine count. -/
inductive SpellsFraction : Nat → List Char → Prop where
  | without : SpellsFraction 0 []
  | point {ds : List Char} (ne_nil : ds ≠ []) (digits : ∀ d ∈ ds, d.isDigit) :
      SpellsFraction (Text.ofDigits (ds.take 9) * 10 ^ (9 - (ds.take 9).length)) ('.' :: ds)

/-- The spellings of a time. -/
inductive SpellsClock : Clock → List Char → Prop where
  | mk {hour minute second nano : Nat} {hs ms ss fs : List Char} (hhour : IsNumber 2 0 23 hour hs)
      (hminute : IsNumber 2 0 59 minute ms) (hsecond : IsNumber 2 0 60 second ss)
      (hfraction : SpellsFraction nano fs) :
      SpellsClock ⟨hour, minute, second, nano⟩ (hs ++ ':' :: (ms ++ ':' :: (ss ++ fs)))

/-- The spellings of a zone. -/
inductive SpellsZone : Zone → List Char → Prop where
  | universal {c : Char} (letter : c = 'Z' ∨ c = 'z') : SpellsZone .universal [c]
  | ahead {sign : Char} {hours minutes : Nat} {hs ms : List Char} (hsign : sign = '+' ∨ sign = '-')
      (hhours : IsNumber 2 0 23 hours hs) (hminutes : IsNumber 2 0 59 minutes ms) :
      SpellsZone (.ahead (if sign = '+' then (hours * 60 + minutes : Nat)
        else -(hours * 60 + minutes : Nat))) (sign :: (hs ++ ':' :: ms))

/-- The spellings of a moment. -/
inductive SpellsMoment : Moment → List Char → Prop where
  | day {d : Day} {ds : List Char} (hday : SpellsDay d ds) : SpellsMoment (.day d) ds
  | clock {c : Clock} {cs : List Char} (hclock : SpellsClock c cs) : SpellsMoment (.clock c) cs
  | unzoned {d : Day} {c : Clock} {ds cs : List Char} {separator : Char} (hday : SpellsDay d ds)
      (hseparator : isSeparator separator) (hclock : SpellsClock c cs) :
      SpellsMoment (.both d c none) (ds ++ separator :: cs)
  | zoned {d : Day} {c : Clock} {zone : Zone} {ds cs zs : List Char} {separator : Char}
      (hday : SpellsDay d ds) (hseparator : isSeparator separator) (hclock : SpellsClock c cs)
      (hzone : SpellsZone zone zs) :
      SpellsMoment (.both d c (some zone)) (ds ++ separator :: (cs ++ zs))

/-! ## What is taken is a spelling -/

section Taken

variable {cs rest : List Char}

lemma exists_spellsDay {d : Day} (h : scanDay cs = some (d, rest)) :
    ∃ ds, cs = ds ++ rest ∧ SpellsDay d ds := by
  obtain ⟨⟨year, cs₁⟩, hyear, h⟩ := Option.bind_eq_some_iff.1 h
  obtain ⟨⟨_, cs₂⟩, hfirst, h⟩ := Option.bind_eq_some_iff.1 h
  obtain ⟨⟨month, cs₃⟩, hmonth, h⟩ := Option.bind_eq_some_iff.1 h
  obtain ⟨⟨_, cs₄⟩, hsecond, h⟩ := Option.bind_eq_some_iff.1 h
  obtain ⟨⟨day, cs₅⟩, hday, h⟩ := Option.bind_eq_some_iff.1 h
  obtain ⟨rfl, rfl⟩ := Prod.mk.inj (Option.some.inj h)
  obtain ⟨ys, rfl, hys⟩ := scanNumber_eq_some_iff.1 hyear
  obtain rfl := scanChar_eq_some hfirst
  obtain ⟨ms, rfl, hms⟩ := scanNumber_eq_some_iff.1 hmonth
  obtain rfl := scanChar_eq_some hsecond
  obtain ⟨ds, rfl, hds⟩ := scanNumber_eq_some_iff.1 hday
  refine ⟨_, ?_, .mk hys hms hds⟩
  simp only [List.append_assoc, List.cons_append]

lemma exists_spellsFraction {nano : Nat} (h : scanFraction cs = some (nano, rest)) :
    ∃ fs, cs = fs ++ rest ∧ SpellsFraction nano fs := by
  unfold scanFraction at h
  split at h
  · next cs =>
    dsimp only at h
    split at h
    · exact nomatch h
    · next hsome =>
      obtain ⟨rfl, rfl⟩ := Prod.mk.inj (Option.some.inj h)
      refine ⟨'.' :: cs.takeWhile Char.isDigit, ?_, .point ?_ <|
        List.all_eq_true.1 List.all_takeWhile⟩
      · rw [List.cons_append, List.prefix_iff_eq_append.1 (List.takeWhile_prefix _)]
      · intro hnil
        rw [hnil] at hsome
        exact hsome rfl
  · obtain ⟨rfl, rfl⟩ := Prod.mk.inj (Option.some.inj h)
    exact ⟨[], rfl, .without⟩

lemma exists_spellsClock {c : Clock} (h : scanClock .strict cs = some (c, rest)) :
    ∃ ds, cs = ds ++ rest ∧ SpellsClock c ds := by
  obtain ⟨⟨hour, cs₁⟩, hhour, h⟩ := Option.bind_eq_some_iff.1 h
  obtain ⟨⟨_, cs₂⟩, hfirst, h⟩ := Option.bind_eq_some_iff.1 h
  obtain ⟨⟨minute, cs₃⟩, hminute, h⟩ := Option.bind_eq_some_iff.1 h
  obtain ⟨⟨_, cs₄⟩, hsecond, h⟩ := Option.bind_eq_some_iff.1 h
  obtain ⟨⟨second, cs₅⟩, hseconds, h⟩ := Option.bind_eq_some_iff.1 h
  obtain ⟨⟨nano, cs₆⟩, hnano, h⟩ := Option.bind_eq_some_iff.1 h
  obtain ⟨rfl, rfl⟩ := Prod.mk.inj (Option.some.inj h)
  obtain ⟨hs, rfl, hhs⟩ := scanNumber_eq_some_iff.1 hhour
  obtain rfl := scanChar_eq_some hfirst
  obtain ⟨ms, rfl, hms⟩ := scanNumber_eq_some_iff.1 hminute
  obtain rfl := scanChar_eq_some hsecond
  obtain ⟨ss, rfl, hss⟩ := scanNumber_eq_some_iff.1 hseconds
  obtain ⟨fs, rfl, hfs⟩ := exists_spellsFraction hnano
  refine ⟨_, ?_, .mk hhs hms hss hfs⟩
  simp only [List.append_assoc, List.cons_append]

lemma exists_spellsZone {zone : Option Zone} (h : scanZone .strict cs = some (zone, rest)) :
    (zone = none ∧ cs = rest) ∨
      ∃ z zs, zone = some z ∧ cs = zs ++ rest ∧ SpellsZone z zs := by
  rcases cs with _ | ⟨c, cs⟩
  · obtain ⟨rfl, rfl⟩ := Prod.mk.inj (Option.some.inj h)
    exact .inl ⟨rfl, rfl⟩
  rw [scanZone] at h
  split at h
  · next hletter =>
    obtain ⟨rfl, rfl⟩ := Prod.mk.inj (Option.some.inj h)
    exact .inr ⟨_, [c], rfl, rfl, .universal hletter⟩
  split at h
  · next hsign =>
    obtain ⟨⟨hours, cs₁⟩, hhours, h⟩ := Option.bind_eq_some_iff.1 h
    obtain ⟨⟨_, cs₂⟩, hcolon, h⟩ := Option.bind_eq_some_iff.1 h
    obtain ⟨⟨minutes, cs₃⟩, hminutes, h⟩ := Option.bind_eq_some_iff.1 h
    dsimp only at h
    split at h
    · obtain ⟨rfl, rfl⟩ := Prod.mk.inj (Option.some.inj h)
      obtain ⟨hs, rfl, hhs⟩ := scanNumber_eq_some_iff.1 hhours
      obtain rfl := scanChar_eq_some hcolon
      obtain ⟨ms, rfl, hms⟩ := scanNumber_eq_some_iff.1 hminutes
      refine .inr ⟨_, _, rfl, ?_, .ahead hsign hhs hms⟩
      simp only [List.append_assoc, List.cons_append]
    · exact nomatch h
  · obtain ⟨rfl, rfl⟩ := Prod.mk.inj (Option.some.inj h)
    exact .inl ⟨rfl, rfl⟩

/-- What is taken as a moment is one of its spellings. -/
lemma exists_spellsMoment {m : Moment} (h : scanMoment .strict cs = some (m, rest)) :
    ∃ ms, cs = ms ++ rest ∧ SpellsMoment m ms := by
  rw [scanMoment] at h
  split at h
  · obtain ⟨⟨c, cs₁⟩, hclock, hm⟩ := Option.map_eq_some_iff.1 h
    obtain ⟨rfl, rfl⟩ := Prod.mk.inj hm
    obtain ⟨ds, rfl, hds⟩ := exists_spellsClock hclock
    exact ⟨ds, rfl, .clock hds⟩
  · next d cs₁ hday =>
    obtain ⟨ds, rfl, hds⟩ := exists_spellsDay hday
    split at h
    · obtain ⟨rfl, rfl⟩ := Prod.mk.inj (Option.some.inj h)
      exact ⟨ds, rfl, .day hds⟩
    · next c cs₂ htime =>
      obtain ⟨⟨zone, cs₃⟩, hzone, hm⟩ := Option.map_eq_some_iff.1 h
      obtain ⟨rfl, rfl⟩ := Prod.mk.inj hm
      rcases cs₁ with _ | ⟨separator, cs₁⟩
      · exact nomatch htime
      rw [scanTimeOfDay] at htime
      split at htime
      · next hseparator =>
        obtain ⟨ts, rfl, hts⟩ := exists_spellsClock htime
        rcases exists_spellsZone hzone with ⟨rfl, rfl⟩ | ⟨z, zs, rfl, rfl, hzs⟩
        · refine ⟨_, ?_, .unzoned hds hseparator hts⟩
          simp only [List.append_assoc, List.cons_append]
        · refine ⟨_, ?_, .zoned hds hseparator hts hzs⟩
          simp only [List.append_assoc, List.cons_append]
      · exact nomatch htime

end Taken

/-! ## A spelling is taken -/

/-- What follows is no digit and no point. -/
def StopsNumber (cs : List Char) : Prop := StopsAt (fun c => c.isDigit || c == '.') cs

lemma SpellsDay.scanDay {d : Day} {ds : List Char} (h : SpellsDay d ds) (rest : List Char) :
    scanDay (ds ++ rest) = some (d, rest) := by
  cases h with
  | mk hyear hmonth hday =>
    simp only [Toml.scanDay, List.append_assoc, List.cons_append, hyear.scanNumber,
      hmonth.scanNumber, hday.scanNumber, scanChar_self, Option.bind_eq_bind, Option.bind_some]
    rfl

lemma SpellsFraction.scanFraction {nano : Nat} {fs rest : List Char} (h : SpellsFraction nano fs)
    (hrest : StopsNumber rest) : scanFraction (fs ++ rest) = some (nano, rest) := by
  have hdigit : StopsAt Char.isDigit rest := fun c hc => (Bool.or_eq_false_iff.1 (hrest c hc)).1
  cases h with
  | without =>
    refine Toml.scanFraction.eq_2 _ fun cs heq => ?_
    have hpoint := hrest '.' (by rw [← List.nil_append rest, heq]; rfl)
    exact nomatch hpoint
  | @point ds ne_nil digits =>
    have htaken : (ds ++ rest).takeWhile Char.isDigit = ds := Text.takeWhile_run digits hdigit
    have hsome : ¬ ds.isEmpty := by rwa [List.isEmpty_iff]
    rw [List.cons_append, Toml.scanFraction]
    simp only [htaken, if_neg hsome, List.drop_left]
    rfl

lemma SpellsClock.scanClock {c : Clock} {cs rest : List Char} (h : SpellsClock c cs)
    (hrest : StopsNumber rest) : scanClock .strict (cs ++ rest) = some (c, rest) := by
  cases h with
  | mk hhour hminute hsecond hfraction =>
    simp only [Toml.scanClock, Limits.strict, List.append_assoc, List.cons_append, hhour.scanNumber,
      hminute.scanNumber, hsecond.scanNumber, hfraction.scanFraction hrest, scanChar_self,
      Option.bind_eq_bind, Option.bind_some]
    rfl

/-- A time is no day: its hour has two digits only. -/
lemma SpellsClock.scanDay_eq_none {c : Clock} {cs : List Char} (h : SpellsClock c cs)
    (rest : List Char) : scanDay (cs ++ rest) = none := by
  cases h with
  | @mk _ _ _ _ hs ms ss fs hhour _ _ _ =>
    have hyear : ∀ tail, scanNumber 4 0 9999 (hs ++ ':' :: tail) = none := by
      intro tail
      rw [Toml.scanNumber]
      refine if_neg fun ⟨_, hall, _⟩ => ?_
      have hcolon : ':' ∈ (hs ++ ':' :: tail).take 4 := by
        rw [List.take_append, hhour.length]
        exact List.mem_append_right _ List.mem_cons_self
      exact nomatch List.all_eq_true.1 hall _ hcolon
    rw [List.append_assoc, List.cons_append, Toml.scanDay, hyear]
    rfl

lemma SpellsZone.scanZone {zone : Zone} {zs : List Char} (h : SpellsZone zone zs)
    (rest : List Char) : scanZone .strict (zs ++ rest) = some (some zone, rest) := by
  cases h with
  | universal letter => exact if_pos letter
  | @ahead sign hours minutes hs ms hsign hhours hminutes =>
    have hletter : ¬ (sign = 'Z' ∨ sign = 'z') := by rcases hsign with rfl | rfl <;> decide
    have hsize : hours * 60 + minutes ≤ zoneLimit := by
      have hmost := hhours.le_high
      have hmost' := hminutes.le_high
      rw [zoneLimit]
      omega
    simp only [List.append_assoc, List.cons_append, Toml.scanZone, if_neg hletter, if_pos hsign,
      Limits.strict, hhours.scanNumber, hminutes.scanNumber, scanChar_self, Option.bind_eq_bind,
      Option.bind_some, if_pos hsize]
    rfl

/-- A zone starts with no digit and no point. -/
lemma SpellsZone.stopsNumber {zone : Zone} {zs : List Char} (h : SpellsZone zone zs)
    (rest : List Char) : StopsNumber (zs ++ rest) := by
  cases h with
  | universal letter => exact Text.stopsAt_cons (by rcases letter with rfl | rfl <;> rfl) rest
  | ahead hsign => exact Text.stopsAt_cons (by rcases hsign with rfl | rfl <;> rfl) _

/-! ### In front of something else -/

/-- Whether a character may stand in a moment. -/
def isMomentChar (c : Char) : Bool :=
  c.isDigit || ['-', ':', '.', '+', 'T', 't', ' ', 'Z', 'z'].contains c

/-- What may stand behind a moment: a gap at most, and then no character of a moment. -/
def EndsMoment (cs : List Char) : Prop := StopsAt isMomentChar (skipGap cs)

section EndsMoment

variable {cs : List Char}

lemma EndsMoment.eq_nil_or_cons (h : EndsMoment cs) : cs = [] ∨ ∃ c tail,
    cs = c :: tail ∧ (isGap c ∧ EndsMoment tail ∨ isMomentChar c = false) := by
  rcases cs with _ | ⟨c, tail⟩
  · exact .inl rfl
  refine .inr ⟨c, tail, rfl, ?_⟩
  by_cases hgap : isGap c
  · have hskip : skipGap (c :: tail) = skipGap tail := List.dropWhile_cons_of_pos hgap
    refine .inl ⟨hgap, ?_⟩
    rwa [EndsMoment, hskip] at h
  · have hskip : skipGap (c :: tail) = c :: tail := List.dropWhile_cons_of_neg hgap
    rw [EndsMoment, hskip] at h
    exact .inr (h c rfl)

/-- Of the characters of a moment only a gap stands behind one. -/
lemma EndsMoment.head_ne {c d : Char} (h : EndsMoment (c :: cs)) (hd : isMomentChar d)
    (hgap : isGap d = false) : c ≠ d := by
  rintro rfl
  rcases h.eq_nil_or_cons with hnil | ⟨_, _, heq, hc⟩
  · exact nomatch hnil
  · obtain ⟨rfl, rfl⟩ := List.cons.inj heq
    rcases hc with ⟨hc, -⟩ | hc
    · exact nomatch hgap.symm.trans hc
    · exact nomatch hc.symm.trans hd

lemma EndsMoment.stopsNumber (h : EndsMoment cs) : StopsNumber cs := by
  intro c hc
  obtain ⟨tail, rfl⟩ := List.head?_eq_some_iff.1 hc
  rw [Bool.or_eq_false_iff, beq_eq_false_iff_ne, ← Bool.not_eq_true]
  refine ⟨fun hdigit => h.head_ne (d := c) ?_ ?_ rfl, h.head_ne rfl rfl⟩
  · rw [isMomentChar, hdigit, Bool.true_or]
  · rw [isGap, Bool.or_eq_false_iff, beq_eq_false_iff_ne, beq_eq_false_iff_ne]
    constructor <;> rintro rfl <;> exact nomatch hdigit

lemma EndsMoment.scanZone (h : EndsMoment cs) (limits : Limits) :
    scanZone limits cs = some (none, cs) := by
  rcases cs with _ | ⟨c, cs⟩
  · rfl
  · have hletter : ¬ (c = 'Z' ∨ c = 'z') := not_or.2 ⟨h.head_ne rfl rfl, h.head_ne rfl rfl⟩
    have hsign : ¬ (c = '+' ∨ c = '-') := not_or.2 ⟨h.head_ne rfl rfl, h.head_ne rfl rfl⟩
    rw [Toml.scanZone, if_neg hletter, if_neg hsign]

/-- No time stands behind a moment. -/
lemma EndsMoment.scanTimeOfDay (h : EndsMoment cs) (limits : Limits) :
    scanTimeOfDay limits cs = none := by
  rcases h.eq_nil_or_cons with rfl | ⟨c, tail, rfl, ⟨-, htail⟩ | hc⟩
  · rfl
  · have hclock : scanClock limits tail = none := by
      have hhour : scanNumber 2 0 limits.hour tail = none := by
        rw [scanNumber]
        refine if_neg fun ⟨hlength, hall, _⟩ => ?_
        rcases tail with _ | ⟨d, tail⟩
        · exact nomatch hlength
        · have hd : d.isDigit := List.all_eq_true.1 hall d List.mem_cons_self
          have hstop : d.isDigit = false := (Bool.or_eq_false_iff.1 (htail.stopsNumber d rfl)).1
          exact nomatch hd.symm.trans hstop
      rw [scanClock, hhour]
      rfl
    rw [Toml.scanTimeOfDay, hclock, ite_self]
  · have hseparator : ¬ isSeparator c := by
      intro hc'
      simp only [isSeparator, Bool.or_eq_true, beq_iff_eq] at hc'
      rcases hc' with (rfl | rfl) | rfl <;> exact nomatch hc
    rw [Toml.scanTimeOfDay, if_neg hseparator]

end EndsMoment

/-- **A moment is taken from each of its spellings.** -/
lemma SpellsMoment.scanMoment {m : Moment} {ms rest : List Char} (h : SpellsMoment m ms)
    (hrest : EndsMoment rest) : scanMoment .strict (ms ++ rest) = some (m, rest) := by
  have hstop := hrest.stopsNumber
  cases h with
  | day hday =>
    rw [Toml.scanMoment, hday.scanDay]
    simp only [hrest.scanTimeOfDay]
  | clock hclock =>
    rw [Toml.scanMoment, hclock.scanDay_eq_none]
    simp only [hclock.scanClock hstop, Option.map_some]
  | unzoned hday hseparator hclock =>
    rw [Toml.scanMoment, List.append_assoc, List.cons_append, hday.scanDay]
    simp only [scanTimeOfDay, if_pos hseparator, hclock.scanClock hstop, hrest.scanZone,
      Option.map_some]
  | zoned hday hseparator hclock hzone =>
    rw [Toml.scanMoment, List.append_assoc, List.cons_append, List.append_assoc, hday.scanDay]
    simp only [scanTimeOfDay, if_pos hseparator, hclock.scanClock (hzone.stopsNumber rest),
      hzone.scanZone, Option.map_some]

/-! ## The written form is a spelling -/

/-- A day has no other spelling than its written form. -/
lemma SpellsDay.eq_chars {d : Day} {ds : List Char} (h : SpellsDay d ds) : ds = d.chars := by
  cases h with
  | mk hyear hmonth hday =>
    rw [Day.chars, ← hyear.eq_digitsWidth (by decide), ← hmonth.eq_digitsWidth (by decide),
      ← hday.eq_digitsWidth (by decide)]

lemma SpellsDay.chars {d : Day} {ds : List Char} (h : SpellsDay d ds) : SpellsDay d d.chars := by
  rwa [← h.eq_chars]

/-- Zeros at the end of a fraction do not count. -/
lemma ofDigits_append_zeros (ds : List Char) (k : Nat) :
    Text.ofDigits (ds ++ List.replicate k '0') = Text.ofDigits ds * 10 ^ k := by
  have hzeros : Text.ofDigits (List.replicate k '0') = 0 := by
    rw [Text.ofDigits, Nat.ofDigitChars_replicate_zero, Nat.mul_zero]
  rw [Text.ofDigits_append, Text.followedBy, hzeros, List.length_replicate, Nat.add_zero]

lemma SpellsFraction.lt {nano : Nat} {fs : List Char} (h : SpellsFraction nano fs) :
    nano < 10 ^ 9 := by
  cases h with
  | without => decide
  | @point ds ne_nil digits =>
    have hvalue : Text.ofDigits (ds.take 9) < 10 ^ (ds.take 9).length :=
      Text.ofDigits_lt fun d hd => digits d (List.mem_of_mem_take hd)
    have hlength : (ds.take 9).length + (9 - (ds.take 9).length) = 9 := by
      rw [List.length_take]
      omega
    calc Text.ofDigits (ds.take 9) * 10 ^ (9 - (ds.take 9).length)
        < 10 ^ (ds.take 9).length * 10 ^ (9 - (ds.take 9).length) :=
          Nat.mul_lt_mul_of_pos_right hvalue (Nat.pow_pos (by decide))
      _ = 10 ^ 9 := by rw [← Nat.pow_add, hlength]

/-- Without the zeros at their end digits are the same but for so many zeros. -/
lemma eq_append_zeros (ds : List Char) : ∃ k,
    ds = (ds.reverse.dropWhile (· == '0')).reverse ++ List.replicate k '0' := by
  refine ⟨(ds.reverse.takeWhile (· == '0')).length, ?_⟩
  have hzeros : ds.reverse.takeWhile (· == '0') =
      List.replicate (ds.reverse.takeWhile (· == '0')).length '0' :=
    List.eq_replicate_of_mem fun d hd => by
      simpa using List.all_eq_true.1 List.all_takeWhile d hd
  calc ds = (ds.reverse.takeWhile (· == '0') ++ ds.reverse.dropWhile (· == '0')).reverse := by
        rw [List.takeWhile_append_dropWhile, List.reverse_reverse]
    _ = _ := by rw [List.reverse_append, hzeros, List.reverse_replicate, List.length_replicate]

lemma spellsFraction_fractionChars {nano : Nat} (h : nano < 10 ^ 9) :
    SpellsFraction nano (fractionChars nano) := by
  rw [fractionChars]
  split
  · next hnone => exact hnone ▸ .without
  next hsome =>
  have hlength : (digitsWidth 9 nano).length = 9 := Text.length_digitsWidth_of_lt (by decide) h
  obtain ⟨k, hsplit⟩ := eq_append_zeros (digitsWidth 9 nano)
  generalize ((digitsWidth 9 nano).reverse.dropWhile (· == '0')).reverse = ds at hsplit ⊢
  have hds : ∀ c ∈ ds, c.isDigit := fun c hc =>
    Text.isDigit_of_mem_digitsWidth (hsplit ▸ List.mem_append_left _ hc)
  rw [hsplit, List.length_append, List.length_replicate] at hlength
  have hvalue : Text.ofDigits ds * 10 ^ (9 - ds.length) = nano := by
    rw [show 9 - ds.length = k by omega, ← ofDigits_append_zeros, ← hsplit,
      Text.ofDigits_digitsWidth]
  have hne : ds ≠ [] := by
    rintro rfl
    rw [Text.ofDigits_nil, Nat.zero_mul] at hvalue
    exact hsome hvalue.symm
  have hspells := SpellsFraction.point hne hds
  rwa [List.take_of_length_le (by omega), hvalue] at hspells

lemma SpellsClock.chars {c : Clock} {cs : List Char} (h : SpellsClock c cs) :
    SpellsClock c c.chars := by
  cases h with
  | mk hhour hminute hsecond hfraction =>
    rw [Clock.chars, ← hhour.eq_digitsWidth (by decide), ← hminute.eq_digitsWidth (by decide),
      ← hsecond.eq_digitsWidth (by decide)]
    exact .mk hhour hminute hsecond (spellsFraction_fractionChars hfraction.lt)

/-- An offset is written with the sign that it has; none has the sign of those ahead. -/
lemma SpellsZone.chars {zone : Zone} {zs : List Char} (h : SpellsZone zone zs) :
    SpellsZone zone zone.chars := by
  cases h with
  | universal => exact .universal (.inl rfl)
  | @ahead sign hours minutes hs ms hsign hhours hminutes =>
    have hmost := hminutes.le_high
    have hchars : ∀ offset : Int, offset.natAbs = hours * 60 + minutes →
        (Zone.ahead offset).chars = (if offset < 0 then '-' else '+') :: (hs ++ ':' :: ms) := by
      intro offset hoffset
      rw [Zone.chars, hoffset, show (hours * 60 + minutes) / 60 = hours by omega,
        show (hours * 60 + minutes) % 60 = minutes by omega, hhours.eq_digitsWidth (by decide),
        hminutes.eq_digitsWidth (by decide)]
    rcases hsign with rfl | rfl
    · rw [if_pos rfl, hchars _ rfl, if_neg (Int.not_lt.2 (Int.natCast_nonneg _))]
      have hspells := SpellsZone.ahead (.inl rfl) hhours hminutes
      rwa [if_pos rfl] at hspells
    · rw [if_neg (by decide), hchars _ (Int.natAbs_neg _)]
      by_cases hnone : hours * 60 + minutes = 0
      · have hspells := SpellsZone.ahead (.inl rfl) hhours hminutes
        rw [if_pos rfl, hnone] at hspells
        rw [hnone]
        exact hspells
      · have hspells := SpellsZone.ahead (.inr rfl) hhours hminutes
        rw [if_neg (by decide)] at hspells
        rwa [if_pos (by omega)]

/-- **The written form of a moment that can be spelled is one of its spellings.** -/
lemma SpellsMoment.chars {m : Moment} {ms : List Char} (h : SpellsMoment m ms) :
    SpellsMoment m m.chars := by
  cases h with
  | day hday => exact .day hday.chars
  | clock hclock => exact .clock hclock.chars
  | unzoned hday _ hclock =>
    rw [Moment.chars, Option.elim_none, List.append_nil]
    exact .unzoned hday.chars rfl hclock.chars
  | zoned hday _ hclock hzone => exact .zoned hday.chars rfl hclock.chars hzone.chars

/-! ## The characters of a spelling -/

section Characters

variable {cs : List Char}

lemma IsNumber.isMomentChar {count low high n : Nat} (h : IsNumber count low high n cs) :
    ∀ c ∈ cs, isMomentChar c := fun c hc => by
  rw [Toml.isMomentChar, h.digits c hc, Bool.true_or]

lemma SpellsDay.isMomentChar {d : Day} (h : SpellsDay d cs) : ∀ c ∈ cs, isMomentChar c := by
  cases h with
  | mk hyear hmonth hday =>
    simp only [List.forall_mem_append, List.forall_mem_cons]
    exact ⟨hyear.isMomentChar, rfl, hmonth.isMomentChar, rfl, hday.isMomentChar⟩

lemma SpellsClock.isMomentChar {c : Clock} (h : SpellsClock c cs) :
    ∀ c ∈ cs, isMomentChar c := by
  cases h with
  | mk hhour hminute hsecond hfraction =>
    simp only [List.forall_mem_append, List.forall_mem_cons]
    refine ⟨hhour.isMomentChar, rfl, hminute.isMomentChar, rfl, hsecond.isMomentChar, ?_⟩
    cases hfraction with
    | without => exact nofun
    | point ne_nil digits =>
      rw [List.forall_mem_cons]
      exact ⟨rfl, fun c hc => by rw [Toml.isMomentChar, digits c hc, Bool.true_or]⟩

lemma SpellsZone.isMomentChar {zone : Zone} (h : SpellsZone zone cs) :
    ∀ c ∈ cs, isMomentChar c := by
  cases h with
  | universal letter =>
    rw [List.forall_mem_singleton]
    rcases letter with rfl | rfl <;> rfl
  | ahead hsign hhours hminutes =>
    simp only [List.forall_mem_append, List.forall_mem_cons]
    exact ⟨by rcases hsign with rfl | rfl <;> rfl, hhours.isMomentChar, rfl,
      hminutes.isMomentChar⟩

lemma isMomentChar_of_isSeparator {c : Char} (h : isSeparator c) : isMomentChar c := by
  simp only [isSeparator, Bool.or_eq_true, beq_iff_eq] at h
  rcases h with (rfl | rfl) | rfl <;> rfl

lemma SpellsMoment.isMomentChar {m : Moment} (h : SpellsMoment m cs) :
    ∀ c ∈ cs, isMomentChar c := by
  cases h with
  | day hday => exact hday.isMomentChar
  | clock hclock => exact hclock.isMomentChar
  | unzoned hday hseparator hclock =>
    simp only [List.forall_mem_append, List.forall_mem_cons]
    exact ⟨hday.isMomentChar, isMomentChar_of_isSeparator hseparator, hclock.isMomentChar⟩
  | zoned hday hseparator hclock hzone =>
    simp only [List.forall_mem_append, List.forall_mem_cons]
    exact ⟨hday.isMomentChar, isMomentChar_of_isSeparator hseparator, hclock.isMomentChar,
      hzone.isMomentChar⟩

/-- A moment starts with a digit. -/
lemma SpellsMoment.eq_cons {m : Moment} (h : SpellsMoment m cs) :
    ∃ c tail, cs = c :: tail ∧ c.isDigit := by
  have hnumber : ∀ {count low high n ds} (rest : List Char), IsNumber (count + 1) low high n ds →
      ∃ c tail, ds ++ rest = c :: tail ∧ c.isDigit := by
    intro count low high n ds rest h
    obtain ⟨c, ds, rfl⟩ := List.exists_cons_of_length_eq_add_one h.length
    exact ⟨c, ds ++ rest, rfl, h.digits c List.mem_cons_self⟩
  have hday : ∀ {d ds} (rest : List Char), SpellsDay d ds →
      ∃ c tail, ds ++ rest = c :: tail ∧ c.isDigit := by
    rintro _ _ rest ⟨hyear, -, -⟩
    rw [List.append_assoc]
    exact hnumber _ hyear
  cases h with
  | day h =>
    have hcons := hday [] h
    rwa [List.append_nil] at hcons
  | clock h =>
    cases h with
    | mk hhour => exact hnumber _ hhour
  | unzoned h => exact hday _ h
  | zoned h => exact hday _ h

end Characters

end PaymentPlans.Toml
