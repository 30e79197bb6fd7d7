/-
# What is read in the exact form

A text is read as an instant in the exact form exactly if it spells a day and a time with a zone,
and the instant is the one that this clock and this calendar show in the zone.  Before the offset
of the zone there may also be a minus sign that is longer than a hyphen.
-/
import PaymentPlans.Proofs.Toml.Moments

namespace PaymentPlans

namespace Instant

open Toml (Clock Day IsNumber Moment SpellsClock SpellsDay SpellsFraction SpellsMoment SpellsZone
  StopsNumber Zone isSeparator)

variable {cs rest : List Char}

/-! ## The parts -/

/-- What is taken as a number of so many digits is one. -/
lemma isNumber_of_scanNumber {count n : Nat} (h : scanNumber count count cs = .ok (n, rest)) :
    ∃ ds, cs = ds ++ rest ∧ ∀ {low high : Nat}, low ≤ n → n ≤ high → IsNumber count low high n ds := by
  let ds := (cs.take count).takeWhile Char.isDigit
  have hprefix : ds <+: cs := (List.takeWhile_prefix _).trans (List.take_prefix count cs)
  have hmost : ds.length ≤ count :=
    Nat.le_trans (List.takeWhile_prefix _).length_le (List.length_take_le count cs)
  -- The text may be too short, start with too few digits, or give too large a number.
  rw [scanNumber] at h
  split at h
  · cases h
  split at h
  · cases h
  split at h
  · cases h
  next hleast _ =>
  obtain ⟨rfl, rfl⟩ := Prod.mk.inj (Except.ok.inj h)
  refine ⟨ds, (List.prefix_iff_eq_append.1 hprefix).symm, fun hlow hhigh => ?_⟩
  exact ⟨Nat.le_antisymm hmost (Nat.not_lt.1 hleast), List.all_eq_true.1 List.all_takeWhile, rfl,
    hlow, hhigh⟩

lemma eq_cons_of_scanChar {c : Char} {u : Unit} (h : scanChar c cs = .ok (u, rest)) :
    cs = c :: rest := by
  cases cs with
  | nil => exact nomatch h
  | cons d cs =>
    rw [scanChar] at h
    split at h
    · next hd => rw [hd, (Prod.mk.inj (Except.ok.inj h)).2]
    · exact nomatch h

lemma eq_cons_of_scanSeparator {u : Unit} (h : scanSeparator cs = .ok (u, rest)) :
    ∃ c, isSeparator c ∧ cs = c :: rest := by
  cases cs with
  | nil => cases h
  | cons c cs =>
    rw [scanSeparator] at h
    split at h
    · next hc =>
      refine ⟨c, ?_, by rw [(Prod.mk.inj (Except.ok.inj h)).2]⟩
      simp only [isSeparator, Bool.or_eq_true, beq_iff_eq]
      tauto
    · cases h

/-- The rest of a run is dropped with it. -/
lemma dropWhile_drop (p : Char → Bool) (n : Nat) (cs : List Char) :
    (cs.drop ((cs.takeWhile p).take n).length).dropWhile p = cs.dropWhile p := by
  induction cs generalizing n with
  | nil => simp
  | cons c cs ih =>
    rw [List.takeWhile_cons]
    split
    · next hc =>
      cases n with
      | zero => rfl
      | succ n =>
        rw [List.take_succ_cons, List.length_cons, List.drop_succ_cons, ih,
          List.dropWhile_cons_of_pos hc]
    · rw [List.take_nil]
      rfl

lemma spellsFraction_of_scanFraction {nano : Nat} (h : scanFraction cs = .ok (nano, rest)) :
    ∃ fs, cs = fs ++ rest ∧ SpellsFraction nano fs := by
  unfold scanFraction at h
  split at h
  · next cs =>
    let ds := cs.takeWhile Char.isDigit
    obtain ⟨⟨n, left⟩, hnumber, h⟩ := bind_eq_ok.1 h
    dsimp only at h
    obtain ⟨hnano, hrest⟩ := Prod.mk.inj (Except.ok.inj h)
    rw [scanNumber] at hnumber
    split at hnumber
    · cases hnumber
    split at hnumber
    · cases hnumber
    split at hnumber
    · cases hnumber
    next hsome _ =>
    simp only [← List.take_takeWhile] at hsome hnumber
    obtain ⟨rfl, rfl⟩ := Prod.mk.inj (Except.ok.inj hnumber)
    have hne : ds ≠ [] := by
      intro hnil
      rw [show cs.takeWhile Char.isDigit = [] from hnil] at hsome
      exact hsome (by decide)
    have hplaces : cs.length - (cs.drop (ds.take 9).length).length = (ds.take 9).length := by
      have hle : (ds.take 9).length ≤ cs.length :=
        Nat.le_trans (List.length_take_le' 9 ds) (List.takeWhile_prefix _).length_le
      rw [List.length_drop]
      omega
    -- All digits of the run belong to the fraction, although no more than nine count.
    refine ⟨'.' :: ds, ?_, ?_⟩
    · rw [← hrest, dropWhile_drop, List.cons_append, List.takeWhile_append_dropWhile]
    · rw [← hnano, hplaces]
      exact .point hne (List.all_eq_true.1 List.all_takeWhile)
  · obtain ⟨rfl, rfl⟩ := Prod.mk.inj (Except.ok.inj h)
    exact ⟨[], rfl, .without⟩

lemma isNumber_of_scanPair {pair : Char × Char} (h : scanPair cs = .ok (pair, rest)) :
    ∃ ds, cs = ds ++ rest ∧
      ∀ {high : Nat}, pairValue pair ≤ high → IsNumber 2 0 high (pairValue pair) ds := by
  unfold scanPair at h
  split at h
  · exact nomatch h
  split at h
  · next a b rest' _ =>
    split at h
    · next hdigits =>
      obtain ⟨rfl, rfl⟩ := Prod.mk.inj (Except.ok.inj h)
      obtain ⟨ha, hb⟩ := Bool.and_eq_true_iff.1 hdigits
      refine ⟨[a, b], rfl, fun hhigh => ⟨rfl, ?_, rfl, Nat.zero_le _, hhigh⟩⟩
      rw [List.forall_mem_cons, List.forall_mem_singleton]
      exact ⟨ha, hb⟩
    · exact nomatch h
  · exact nomatch h

/-! ## The whole -/

/-- The spellings of an offset: those of a zone, and those with a minus sign that is longer than a
hyphen. -/
inductive SpellsOffset : Zone → List Char → Prop where
  | zone {zone : Zone} {zs : List Char} (hzone : SpellsZone zone zs) : SpellsOffset zone zs
  | minus {hours minutes : Nat} {hs ms : List Char} (hhours : IsNumber 2 0 23 hours hs)
      (hminutes : IsNumber 2 0 59 minutes ms) :
      SpellsOffset (.ahead (-(hours * 60 + minutes : Nat))) ('\u2212' :: (hs ++ ':' :: ms))

/-- The spellings of a day and a time with an offset. -/
inductive SpellsReading : Reading → List Char → Prop where
  | mk {d : Day} {c : Clock} {zone : Zone} {ds cs zs : List Char} {separator : Char}
      (hday : SpellsDay d ds) (hseparator : isSeparator separator) (hclock : SpellsClock c cs)
      (hoffset : SpellsOffset zone zs) :
      SpellsReading (readingOf d c zone) (ds ++ separator :: (cs ++ zs))

/-- What is taken as an offset of less than a day is spelled as one. -/
lemma spellsOffset_of_scanOffset {offset : Int} (h : scanOffset (scanChar ':') cs = .ok (offset, rest))
    (hoffset : offset.natAbs < 1440) :
    ∃ zone zs, cs = zs ++ rest ∧ zone.minutes = offset ∧ SpellsOffset zone zs := by
  rcases cs with _ | ⟨c, cs⟩
  · cases h
  rw [scanOffset] at h
  split at h
  · next hletter =>
    obtain ⟨rfl, rfl⟩ := Prod.mk.inj (Except.ok.inj h)
    exact ⟨.universal, [c], rfl, rfl, .zone (.universal hletter)⟩
  split at h
  · next hsign =>
    obtain ⟨⟨hours, cs₁⟩, hhours, h⟩ := bind_eq_ok.1 h
    obtain ⟨⟨_, cs₂⟩, hcolon, h⟩ := bind_eq_ok.1 h
    obtain ⟨⟨minutes, cs₃⟩, hminutes, h⟩ := bind_eq_ok.1 h
    dsimp only at h
    split at h
    · cases h
    next hfits =>
    obtain ⟨rfl, rfl⟩ := Prod.mk.inj (Except.ok.inj h)
    obtain ⟨hs, rfl, hhs⟩ := isNumber_of_scanPair hhours
    obtain rfl := eq_cons_of_scanChar hcolon
    obtain ⟨ms, rfl, hms⟩ := isNumber_of_scanPair hminutes
    have hminute : pairValue minutes ≤ 59 := by omega
    have hhour : pairValue hours ≤ 23 := by
      split at hoffset <;> omega
    rcases hsign with rfl | rfl | rfl
    · exact ⟨_, _, by simp, rfl, .zone (.ahead (.inl rfl) (hhs hhour) (hms hminute))⟩
    · exact ⟨_, _, by simp, rfl, .zone (.ahead (.inr rfl) (hhs hhour) (hms hminute))⟩
    · exact ⟨_, _, by simp, rfl, .minus (hhs hhour) (hms hminute)⟩
  · cases h

/-- What is taken in the exact form spells what is read, if the offset is less than a day. -/
lemma spellsReading_of_scanExact {r : Reading} (h : scanExact cs = .ok (r, []))
    (hoffset : r.offset.natAbs < 1440) : SpellsReading r cs := by
  rw [scanExact] at h
  split at h
  · cases h
  obtain ⟨⟨year, cs₁⟩, hyear, h⟩ := bind_eq_ok.1 h
  obtain ⟨⟨_, cs₂⟩, hfirst, h⟩ := bind_eq_ok.1 h
  obtain ⟨⟨month, cs₃⟩, hmonth, h⟩ := bind_eq_ok.1 h
  obtain ⟨⟨_, cs₄⟩, hsecond, h⟩ := bind_eq_ok.1 h
  obtain ⟨⟨day, cs₅⟩, hday, h⟩ := bind_eq_ok.1 h
  dsimp only at h
  split at h
  · cases h
  next hdate =>
  obtain ⟨⟨_, cs₆⟩, hseparator, h⟩ := bind_eq_ok.1 h
  obtain ⟨⟨hour, cs₇⟩, hhour, h⟩ := bind_eq_ok.1 h
  obtain ⟨⟨_, cs₈⟩, hthird, h⟩ := bind_eq_ok.1 h
  obtain ⟨⟨minute, cs₉⟩, hminute, h⟩ := bind_eq_ok.1 h
  obtain ⟨⟨_, cs₁₀⟩, hfourth, h⟩ := bind_eq_ok.1 h
  obtain ⟨⟨second, cs₁₁⟩, hseconds, h⟩ := bind_eq_ok.1 h
  obtain ⟨⟨nano, cs₁₂⟩, hnano, h⟩ := bind_eq_ok.1 h
  dsimp only at h
  split at h
  · cases h
  next hrange =>
  obtain ⟨⟨offset, cs₁₃⟩, hzone, h⟩ := bind_eq_ok.1 h
  obtain ⟨rfl, rfl⟩ := Prod.mk.inj (Except.ok.inj h)
  -- Each part starts where the one before it ends, so the text is put together from the front.
  obtain ⟨ys, rfl, hys⟩ := isNumber_of_scanNumber hyear
  obtain rfl := eq_cons_of_scanChar hfirst
  obtain ⟨ms, rfl, hms⟩ := isNumber_of_scanNumber hmonth
  obtain rfl := eq_cons_of_scanChar hsecond
  obtain ⟨ds, rfl, hds⟩ := isNumber_of_scanNumber hday
  obtain ⟨separator, hbetween, rfl⟩ := eq_cons_of_scanSeparator hseparator
  obtain ⟨hs, rfl, hhs⟩ := isNumber_of_scanNumber hhour
  obtain rfl := eq_cons_of_scanChar hthird
  obtain ⟨ns, rfl, hns⟩ := isNumber_of_scanNumber hminute
  obtain rfl := eq_cons_of_scanChar hfourth
  obtain ⟨ss, rfl, hss⟩ := isNumber_of_scanNumber hseconds
  obtain ⟨fs, rfl, hfs⟩ := spellsFraction_of_scanFraction hnano
  obtain ⟨zone, zs, rfl, rfl, hzs⟩ := spellsOffset_of_scanOffset hzone hoffset
  have hisDate : Date.IsDate year month day := by
    by_contra hnot
    exact hdate (Date.ofParts?_eq_none_iff.2 hnot)
  obtain ⟨hlow, hhigh⟩ := Date.month_bounds ⟨year, month, day, hisDate⟩
  have hspellsDay : SpellsDay ⟨year, month, day⟩ (ys ++ '-' :: (ms ++ '-' :: ds)) := by
    have hdigits : IsNumber 4 year year year ys := hys (Nat.le_refl _) (Nat.le_refl _)
    have hsmall : year < 10 ^ 4 := by
      rw [← hdigits.value, ← hdigits.length]
      exact Text.ofDigits_lt hdigits.digits
    exact .mk (hys (Nat.zero_le _) (Nat.le_of_lt_succ hsmall)) (hms hlow hhigh)
      (hds hisDate.2.1 hisDate.2.2)
  have hspellsClock : SpellsClock ⟨hour, minute, second, nano⟩
      (hs ++ ':' :: (ns ++ ':' :: (ss ++ fs))) :=
    .mk (hhs (Nat.zero_le _) (by omega)) (hns (Nat.zero_le _) (by omega))
      (hss (Nat.zero_le _) (by omega)) hfs
  have hspells := SpellsReading.mk hspellsDay hbetween hspellsClock hzs
  simp only [List.append_assoc, List.cons_append, List.append_nil] at hspells ⊢
  exact hspells

/-! ## What a reading shows -/

/-- A day is so many days behind another one: none, one, or one before it. -/
inductive Moves (date : Date) : Int → Date → Prop where
  | none : Moves date 0 date
  | next {next : Date} (h : date.next? = some next) : Moves date 1 next
  | prev {prev : Date} (h : date.prev? = some prev) : Moves date (-1) prev

/-- The instant that a clock and a calendar show, when both are ahead of universal time: the seconds
by which they are ahead are taken off, and that may lead to another day.  A sixtieth second goes on
in the second before it. -/
structure Reading.Shows (r : Reading) (i : Instant) : Prop where
  date : ∃ (isDate : Date.IsDate r.year r.month r.day) (days : Int),
    Moves ⟨r.year, r.month, r.day, isDate⟩ days i.date ∧
      i.second + days * 86400 =
        r.hour * 3600 + r.minute * 60 + min r.second 59 - r.offset * 60
  nano : i.nano = r.nano + (r.second - min r.second 59) * 1000000000

lemma of_ofParts?_eq_some {date : Date} {second nano : Nat} {i : Instant}
    (h : ofParts? date second nano = some i) : i.date = date ∧ i.second = second ∧ i.nano = nano := by
  rw [ofParts?] at h
  split at h
  · obtain rfl := Option.some.inj h
    exact ⟨rfl, rfl, rfl⟩
  · cases h

lemma offset_lt_of_ofReading {r : Reading} {i : Instant} (h : ofReading r = .ok i) :
    r.offset.natAbs < 1440 := by
  rw [ofReading] at h
  split at h
  · dsimp only at h
    split at h
    · cases h
    · next hoffset => exact Nat.not_le.1 hoffset
  · cases h

/-- What is made of parts on a day so many days away is shown, if the seconds were moved there. -/
lemma Reading.shows_of_parts {r : Reading} (hdate : Date.IsDate r.year r.month r.day) {days : Int}
    {date : Date} (hmoves : Moves ⟨r.year, r.month, r.day, hdate⟩ days date) {moved : Int}
    (hmoved : r.hour * 3600 + r.minute * 60 + (min r.second 59 : Nat) - r.offset * 60 = moved)
    (hdays : (moved % secondsPerDay).toNat + days * 86400 = moved) {nano : Nat}
    (hnano : nano = r.nano + (r.second - min r.second 59) * 1000000000) {i : Instant}
    (h : (match ofParts? date (moved % secondsPerDay).toNat nano with
      | some instant => (Except.ok instant : Except Fault Instant)
      | none => .error .outOfRange) = .ok i) : r.Shows i := by
  split at h
  · next instant hparts =>
    obtain rfl := Except.ok.inj h
    obtain ⟨rfl, hseconds, hnanos⟩ := of_ofParts?_eq_some hparts
    exact ⟨⟨hdate, days, hmoves, by rw [hseconds, hdays, ← hmoved]⟩, hnanos.trans hnano⟩
  · cases h

lemma Reading.IsShown.shows {r : Reading} (h : r.IsShown) {i : Instant}
    (hi : ofReading r = .ok i) : r.Shows i := by
  obtain ⟨hdate, -, -, hhour, hminute, hsecond, -, hoffset⟩ := h
  have hparts : Date.ofParts? r.year r.month r.day = some ⟨r.year, r.month, r.day, hdate⟩ :=
    dif_pos hdate
  have hshown : (r.second - r.second / 60 : Nat) = min r.second 59 := by omega
  have hnano : r.nano + r.second / 60 * nanosPerSecond =
      r.nano + (r.second - min r.second 59) * 1000000000 := by
    rw [nanosPerSecond]
    omega
  generalize hmoved : (r.hour * 3600 + r.minute * 60 + ((r.second - r.second / 60 : Nat) : Int) -
    r.offset * 60) = moved
  -- Less than a day is taken off or added, so what is left is on one of three days.
  simp only [ofReading, hparts, if_neg (Nat.not_le.2 hoffset), hmoved] at hi
  by_cases hbefore : moved < 0
  · rw [if_pos hbefore] at hi
    rcases hprev : Date.prev? ⟨r.year, r.month, r.day, hdate⟩ with _ | prev
    · rw [hprev] at hi
      cases hi
    · rw [hprev] at hi
      refine Reading.shows_of_parts hdate (.prev hprev) (hshown ▸ hmoved) ?_ hnano hi
      rw [secondsPerDay]
      omega
  by_cases hwithin : moved < secondsPerDay
  · rw [if_neg hbefore, if_pos hwithin] at hi
    refine Reading.shows_of_parts hdate .none (hshown ▸ hmoved) ?_ hnano hi
    rw [secondsPerDay] at hwithin ⊢
    omega
  · rw [if_neg hbefore, if_neg hwithin] at hi
    rcases hnext : Date.next? ⟨r.year, r.month, r.day, hdate⟩ with _ | next
    · rw [hnext] at hi
      cases hi
    · rw [hnext] at hi
      refine Reading.shows_of_parts hdate (.next hnext) (hshown ▸ hmoved) ?_ hnano hi
      rw [secondsPerDay] at hwithin ⊢
      omega

lemma Moves.unique {date next next' : Date} {days : Int} (h : Moves date days next)
    (h' : Moves date days next') : next = next' := by
  cases h <;> cases h'
  · rfl
  · next h h' => exact Option.some.inj (h.symm.trans h')
  · next h h' => exact Option.some.inj (h.symm.trans h')

/-- A reading shows one instant at most. -/
lemma Reading.Shows.unique {r : Reading} {i j : Instant} (hi : r.Shows i) (hj : r.Shows j) :
    i = j := by
  obtain ⟨⟨hdate, days, hmoves, hseconds⟩, hnano⟩ := hi
  obtain ⟨⟨_, days', hmoves', hseconds'⟩, hnano'⟩ := hj
  have hlt := i.second_lt
  have hlt' := j.second_lt
  simp only [secondsPerDay] at hlt hlt'
  obtain rfl : days = days' := by omega
  have hdates : i.date = j.date := hmoves.unique hmoves'
  have hsame : i.second = j.second := by omega
  have hnanos : i.nano = j.nano := hnano.trans hnano'.symm
  cases i
  cases j
  simp only at hdates hsame hnanos
  subst hdates hsame hnanos
  rfl

/-- The instant of a reading is the one that it shows. -/
lemma Reading.IsShown.ofReading_eq_ok_iff {r : Reading} (h : r.IsShown) {i : Instant} :
    ofReading r = .ok i ↔ r.Shows i := by
  refine ⟨h.shows, fun hi => ?_⟩
  obtain ⟨j, hj⟩ := h.exists_ofReading
  rw [hj, (h.shows hj).unique hi]

/-! ## The exact form -/

lemma SpellsOffset.stopsNumber {zone : Zone} {zs : List Char} (h : SpellsOffset zone zs) :
    StopsNumber zs := by
  cases h with
  | zone hzone => simpa using hzone.stopsNumber []
  | minus => exact Text.stopsAt_cons rfl _

lemma SpellsOffset.scanOffset_eq {zone : Zone} {zs : List Char} (h : SpellsOffset zone zs) :
    scanOffset (scanChar ':') zs = .ok (zone.minutes, []) := by
  cases h with
  | zone hzone => exact scanOffset_spelled hzone
  | minus hhours hminutes => exact scanOffset_signed (by tauto) hhours hminutes

lemma SpellsOffset.natAbs_lt {zone : Zone} {zs : List Char} (h : SpellsOffset zone zs) :
    zone.minutes.natAbs < 1440 := by
  cases h with
  | zone hzone => exact natAbs_minutes_lt hzone
  | minus hhours hminutes =>
    have := hhours.le_high
    have := hminutes.le_high
    rw [Zone.minutes]
    omega

lemma SpellsReading.isShown {r : Reading} (h : SpellsReading r cs) : r.IsShown := by
  cases h with
  | mk hday _ hclock hoffset => exact isShown_readingOf hday hclock hoffset.natAbs_lt

/-- A reading is taken from each of its spellings. -/
lemma SpellsReading.scanExact_eq {r : Reading} (h : SpellsReading r cs) :
    scanExact cs = .ok (r, []) := by
  cases h with
  | mk hday hseparator hclock hoffset =>
    rw [Instant.scanExact_eq hday hseparator hclock hoffset.stopsNumber, hoffset.scanOffset_eq]
    rfl

/-- **A text is read as an instant in the exact form exactly if it spells what the instant shows.** -/
lemma ofExactText_eq_ok_iff {text : String} {i : Instant} : ofExactText text = .ok i ↔
    ∃ r, SpellsReading r text.toList ∧ r.Shows i := by
  constructor
  · intro h
    obtain ⟨⟨r, rest⟩, hscan, h⟩ := bind_eq_ok.1 h
    dsimp only at h
    split at h
    · exact nomatch h
    next hrest =>
    obtain rfl : rest = [] := not_not.1 hrest
    have hspells := spellsReading_of_scanExact hscan (offset_lt_of_ofReading h)
    exact ⟨r, hspells, hspells.isShown.shows h⟩
  · rintro ⟨r, hspells, hi⟩
    rw [ofExactText, hspells.scanExact_eq]
    exact hspells.isShown.ofReading_eq_ok_iff.2 hi

/-! ## Moments within bounds -/

lemma scanOffset_chars {zone : Zone} (h : zone.Fits) :
    scanOffset (scanChar ':') zone.chars = .ok (zone.minutes, []) := by
  cases zone with
  | universal => rfl
  | ahead minutes =>
    obtain ⟨sign, hours, rest, hs, ms, hchars, hsign, hhours, hrest, hminutes⟩ := h.chars_eq
    rw [hchars, scanOffset_signed (by tauto) hhours hrest, hminutes]
    rfl

lemma stopsNumber_chars {zone : Zone} (h : zone.Fits) : StopsNumber zone.chars := by
  cases zone with
  | universal => exact Text.stopsAt_cons rfl _
  | ahead minutes =>
    obtain ⟨sign, hours, rest, hs, ms, hchars, hsign, -⟩ := h.chars_eq
    rw [hchars]
    exact Text.stopsAt_cons (by rcases hsign with rfl | rfl <;> rfl) _

/-- Up to the zone, day and time are read from their written form, if there is such an hour. -/
lemma scanExact_chars {d : Day} {c : Clock} (hday : d.Fits) (hclock : c.Fits) {rest : List Char}
    (hrest : StopsNumber rest) : scanExact (d.chars ++ 'T' :: (c.chars ++ rest)) =
      if 23 < c.hour then .error .outOfRange else do
        let (offset, rest) ← scanOffset (scanChar ':') rest
        return (⟨d.year, d.month, d.day, c.hour, c.minute, c.second, c.nano, offset⟩, rest) := by
  obtain ⟨hhour, hminute, hsecond, hnano⟩ := hclock
  have hseparator : Toml.isSeparator 'T' := rfl
  rw [← scanExact_parts hday.spells hseparator
    (Toml.isNumber_digitsWidth (by decide) (by omega) (Nat.zero_le _) hhour)
    (Toml.isNumber_digitsWidth (by decide) (by omega) (Nat.zero_le _) hminute)
    (Toml.isNumber_digitsWidth (by decide) (by omega) (Nat.zero_le _) hsecond)
    (Toml.spellsFraction_fractionChars hnano) hrest, Clock.chars]
  simp only [List.append_assoc, List.cons_append]

/-- Only a moment with a zone of less than a day, and of an hour of the day, is read from its written
form. -/
lemma eq_both_of_scanExact {m : Moment} (hm : m.Fits) {r : Reading}
    (h : scanExact m.chars = .ok (r, [])) (hoffset : r.offset.natAbs < 1440) :
    ∃ d c zone, m = .both d c (some zone) ∧ c.hour ≤ 23 ∧ zone.minutes.natAbs < 1440 ∧
      r = readingOf d c zone := by
  cases hm with
  | day hday => exact nomatch (scanExact_day hday.spells).symm.trans h
  | @clock c hclock =>
    have hle := hclock.hour_le
    have hhour : IsNumber 2 0 24 c.hour (Text.digitsWidth 2 c.hour) :=
      Toml.isNumber_digitsWidth (by decide) (by omega) (Nat.zero_le _) hle
    obtain ⟨fault, hfault⟩ := scanExact_hour hhour _
    exact nomatch hfault.symm.trans h
  | @unzoned d c hday hclock =>
    have hchars : (Moment.both d c none).chars = d.chars ++ 'T' :: (c.chars ++ []) := rfl
    rw [hchars, scanExact_chars hday hclock Text.stopsAt_nil] at h
    split at h <;> exact nomatch h
  | @zoned d c zone hday hclock hzone =>
    have hchars : (Moment.both d c (some zone)).chars = d.chars ++ 'T' :: (c.chars ++ zone.chars) :=
      rfl
    rw [hchars, scanExact_chars hday hclock (stopsNumber_chars hzone), scanOffset_chars hzone] at h
    split at h
    · exact nomatch h
    next hhour =>
    obtain ⟨rfl, -⟩ := Prod.mk.inj (Except.ok.inj h)
    exact ⟨d, c, zone, rfl, Nat.not_lt.1 hhour, hoffset, rfl⟩

/-- **A moment within bounds is read from its written form exactly if it has a zone**, of less than
a day, and an hour of the day.  It gives the instant that it shows. -/
lemma ofExactText_text_eq_ok_iff {m : Moment} (hm : m.Fits) {i : Instant} :
    ofExactText m.text = .ok i ↔ ∃ d c zone, m = .both d c (some zone) ∧ c.hour ≤ 23 ∧
      zone.minutes.natAbs < 1440 ∧ (readingOf d c zone).Shows i := by
  rw [ofExactText_eq_ok_iff, Moment.text, String.toList_ofList]
  constructor
  · rintro ⟨r, hspells, hshows⟩
    obtain ⟨d, c, zone, rfl, hhour, hzone, rfl⟩ :=
      eq_both_of_scanExact hm hspells.scanExact_eq hspells.isShown.offset_lt
    exact ⟨d, c, zone, rfl, hhour, hzone, hshows⟩
  · rintro ⟨d, c, zone, rfl, hhour, hlt, hshows⟩
    cases hm with
    | zoned hday hclock hzone =>
      exact ⟨_, .mk hday.spells rfl (hclock.spells hhour) (.zone (hzone.spells hlt)), hshows⟩

end Instant

end PaymentPlans
