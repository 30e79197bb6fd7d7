/-
# Moments that are instants

A moment with a zone is read as an instant from each of its spellings, and always as the same one;
a day, a time, or both without a zone are refused in every spelling.
-/
import Mathlib.Data.List.Basic
import PaymentPlans.Proofs.Instant.Written
import PaymentPlans.Proofs.Toml.Spelling

namespace PaymentPlans

/-- Behind the first year there is always a day before. -/
lemma Date.exists_prev? {d : Date} (h : minYear < d.year) : ∃ prev, d.prev? = some prev := by
  obtain ⟨hyear, hone, hdays⟩ := d.isDate
  have hmonth := d.month_bounds
  have hparts : ∀ {year : Int} {month day : Nat}, IsDate year month day →
      ∃ prev, ofParts? year month day = some prev := fun hdate => ⟨_, dif_pos hdate⟩
  rw [prev?]
  split
  · exact hparts ⟨hyear, by omega, by omega⟩
  split
  · have hpos := (daysInMonth_pos_iff d.year (d.month - 1)).2 (by omega)
    exact hparts ⟨hyear, hpos, Nat.le_refl _⟩
  · exact hparts ⟨by omega, by decide, Nat.le_refl 31⟩

/-- The minutes by which a clock is ahead. -/
def Toml.Zone.minutes : Toml.Zone → Int
  | universal => 0
  | ahead minutes => minutes

/-- The zone of a moment, if it has one. -/
def Toml.Moment.zone? : Toml.Moment → Option Toml.Zone
  | both _ _ zone => zone
  | _ => none

namespace Instant

open Text (StopsAt)
open Toml (Clock Day IsNumber Moment SpellsClock SpellsDay SpellsFraction SpellsMoment SpellsZone
  StopsNumber Zone isSeparator)

/-- What a moment with a zone shows. -/
def readingOf (d : Day) (c : Clock) (zone : Zone) : Reading where
  year := d.year
  month := d.month
  day := d.day
  hour := c.hour
  minute := c.minute
  second := c.second
  nano := c.nano
  offset := zone.minutes

/-! ## The parts of a spelling -/

variable {cs rest : List Char}

/-- A number of so many digits is taken whole, whatever follows it. -/
lemma scanNumber_isNumber {count low high n : Nat} (h : IsNumber count low high n cs)
    (hcount : count ≤ 4) (rest : List Char) : scanNumber count count (cs ++ rest) = .ok (n, rest) := by
  have hsmall : Text.ofDigits cs < 1 <<< 63 := by
    have hlt := Text.ofDigits_lt h.digits
    have hpow : 10 ^ cs.length ≤ 10 ^ 4 := Nat.pow_le_pow_right (by decide) (h.length ▸ hcount)
    have hbig : 10 ^ 4 < 1 <<< 63 := by decide
    omega
  rw [scanNumber_digits h.digits (Nat.le_of_eq h.length.symm) (Nat.le_of_eq h.length)
    (.inl h.length) hsmall, h.value]

/-- Of the digits of a fraction the first nine count, and the others are left out. -/
lemma scanFraction_spelled {nano : Nat} (h : SpellsFraction nano cs) (hrest : StopsNumber rest) :
    scanFraction (cs ++ rest) = .ok (nano, rest) := by
  have hdigit : StopsAt Char.isDigit rest := fun c hc => (Bool.or_eq_false_iff.1 (hrest c hc)).1
  cases h with
  | without =>
    refine scanFraction.eq_2 _ fun cs heq => ?_
    have hpoint := hrest '.' (by rw [← List.nil_append rest, heq]; rfl)
    cases hpoint
  | @point ds ne_nil digits =>
    have htaken : ∀ d ∈ ds.take 9, d.isDigit := fun d hd => digits d (List.mem_of_mem_take hd)
    have hleft : ∀ d ∈ ds.drop 9, d.isDigit := fun d hd => digits d (List.mem_of_mem_drop hd)
    have hsmall : Text.ofDigits (ds.take 9) < 1 <<< 63 := by
      have hlt := Text.ofDigits_lt htaken
      have hpow : 10 ^ (ds.take 9).length ≤ 10 ^ 9 :=
        Nat.pow_le_pow_right (by decide) (List.length_take_le _ _)
      have hbig : 10 ^ 9 < 1 <<< 63 := by decide
      omega
    have hsome : 1 ≤ (ds.take 9).length := by
      have hpos := List.length_pos_iff.2 ne_nil
      rw [List.length_take]
      omega
    have hstop : (ds.take 9).length = 9 ∨ StopsAt Char.isDigit (ds.drop 9 ++ rest) := by
      rw [List.length_take]
      by_cases hfull : 9 ≤ ds.length
      · exact .inl (Nat.min_eq_left hfull)
      · rw [List.drop_of_length_le (by omega), List.nil_append]
        exact .inr hdigit
    have hread : scanNumber 1 9 (ds ++ rest) =
        .ok (Text.ofDigits (ds.take 9), ds.drop 9 ++ rest) := by
      rw [← scanNumber_digits htaken hsome (List.length_take_le _ _) hstop hsmall,
        ← List.append_assoc, List.take_append_drop]
    have hplaces : (ds ++ rest).length - (ds.drop 9 ++ rest).length = (ds.take 9).length := by
      simp only [List.length_append, List.length_drop, List.length_take]
      omega
    simp only [List.cons_append, scanFraction, hread, ok_bind, hplaces,
      Text.dropWhile_run hleft hdigit]
    rfl

lemma scanSeparator_cons {c : Char} (h : isSeparator c) (cs : List Char) :
    scanSeparator (c :: cs) = .ok ((), cs) := by
  simp only [isSeparator, Bool.or_eq_true, beq_iff_eq] at h
  refine if_pos ?_
  tauto

lemma scanPair_isNumber {low high n : Nat} (h : IsNumber 2 low high n cs) (rest : List Char) :
    ∃ pair, scanPair (cs ++ rest) = .ok (pair, rest) ∧ pairValue pair = n := by
  obtain ⟨a, b, rfl⟩ := List.length_eq_two.1 h.length
  have hbytes : ¬ Text.byteCount (a :: b :: rest) < 2 := by
    have hlength := Text.length_le_byteCount (a :: b :: rest)
    simp only [List.length_cons] at hlength
    omega
  have hdigits : (a.isDigit && b.isDigit) = true := by
    rw [h.digits a (by simp), h.digits b (by simp)]
    rfl
  refine ⟨(a, b), ?_, h.value⟩
  rw [List.cons_append, List.cons_append, List.nil_append, scanPair, if_neg hbytes]
  simp only [hdigits, if_true]

/-- Behind a sign there are hours and minutes. -/
lemma scanOffset_signed {sign : Char} (hsign : sign = '+' ∨ sign = '-' ∨ sign = '\u2212')
    {high hours minutes : Nat} {hs ms : List Char} (hhours : IsNumber 2 0 high hours hs)
    (hminutes : IsNumber 2 0 59 minutes ms) :
    scanOffset (scanChar ':') (sign :: (hs ++ ':' :: ms)) =
      .ok (if sign = '+' then (hours * 60 + minutes : Nat) else -(hours * 60 + minutes : Nat), []) := by
  have hletter : ¬ (sign = 'Z' ∨ sign = 'z') := by rcases hsign with rfl | rfl | rfl <;> decide
  obtain ⟨hourPair, hhour, hhourValue⟩ := scanPair_isNumber hhours (':' :: ms)
  obtain ⟨minutePair, hminute, hminuteValue⟩ := scanPair_isNumber hminutes []
  have hcolon : ∀ cs, scanChar ':' (':' :: cs) = .ok ((), cs) := fun _ => rfl
  have hfits : ¬ 60 ≤ minutes := Nat.not_le.2 (Nat.lt_succ_of_le hminutes.le_high)
  rw [List.append_nil] at hminute
  rw [scanOffset, if_neg hletter, if_pos hsign]
  simp only [hhour, hminute, hcolon, ok_bind, hhourValue, hminuteValue, if_neg hfits]
  rfl

lemma scanOffset_spelled {zone : Zone} (h : SpellsZone zone cs) :
    scanOffset (scanChar ':') cs = .ok (zone.minutes, []) := by
  cases h with
  | universal letter => exact if_pos letter
  | ahead hsign hhours hminutes => exact scanOffset_signed (by tauto) hhours hminutes

/-! ## Moments with a zone -/

/-- The day of a spelling is one of the calendar. -/
lemma isDate_of_spellsDay {d : Day} (h : SpellsDay d cs) : Date.IsDate d.year d.month d.day := by
  cases h with
  | mk hyear hmonth hday =>
    have hmost := hyear.le_high
    refine ⟨?_, hday.low_le, hday.le_high⟩
    simp only [Date.minYear, Date.maxYear]
    omega

/-- Up to the zone, day and time are read from their spellings, if there is such an hour. -/
lemma scanExact_parts {d : Day} {high hour minute second nano : Nat}
    {ds hs ns ss fs : List Char} {separator : Char} (hday : SpellsDay d ds)
    (hseparator : isSeparator separator) (hhour : IsNumber 2 0 high hour hs)
    (hminute : IsNumber 2 0 59 minute ns) (hsecond : IsNumber 2 0 60 second ss)
    (hfraction : SpellsFraction nano fs) (hrest : StopsNumber rest) :
    scanExact (ds ++ separator :: (hs ++ ':' :: (ns ++ ':' :: (ss ++ (fs ++ rest))))) =
      if 23 < hour then .error .outOfRange else do
        let (offset, rest) ← scanOffset (scanChar ':') rest
        return (⟨d.year, d.month, d.day, hour, minute, second, nano, offset⟩, rest) := by
  have hdate : ¬ Date.ofParts? d.year d.month d.day = none := fun hnone =>
    Date.ofParts?_eq_none_iff.1 hnone (isDate_of_spellsDay hday)
  have hchar : ∀ c cs, scanChar c (c :: cs) = .ok ((), cs) := fun _ _ => if_pos rfl
  cases hday with
  | @mk year month day ys ms ds hyear hmonth hday =>
  simp only [List.append_assoc, List.cons_append]
  generalize htext : ys ++ '-' :: (ms ++ '-' :: (ds ++ separator ::
    (hs ++ ':' :: (ns ++ ':' :: (ss ++ (fs ++ rest)))))) = text
  have hbytes : ¬ Text.byteCount text < leastBytes := by
    have hlength := congrArg List.length htext
    have hleast := Text.length_le_byteCount text
    simp only [List.length_append, List.length_cons, hyear.length, hmonth.length, hday.length,
      hhour.length, hminute.length, hsecond.length] at hlength
    rw [leastBytes]
    omega
  have hrange : (23 < hour ∨ 59 < minute ∨ 60 < second) ↔ 23 < hour := by
    have := hminute.le_high
    have := hsecond.le_high
    omega
  rw [scanExact, if_neg hbytes, ← htext]
  simp only [scanNumber_isNumber hyear (by decide), scanNumber_isNumber hmonth (by decide),
    scanNumber_isNumber hday (by decide), scanNumber_isNumber hhour (by decide),
    scanNumber_isNumber hminute (by decide), scanNumber_isNumber hsecond (by decide),
    scanFraction_spelled hfraction hrest, hchar, scanSeparator_cons hseparator, ok_bind,
    if_neg hdate, hrange]
  split <;> rfl

/-- Up to the zone, day and time are read from their spellings. -/
lemma scanExact_eq {d : Day} {c : Clock} {ds : List Char} {separator : Char}
    (hday : SpellsDay d ds) (hseparator : isSeparator separator) (hclock : SpellsClock c cs)
    (hrest : StopsNumber rest) : scanExact (ds ++ separator :: (cs ++ rest)) = do
      let (offset, rest) ← scanOffset (scanChar ':') rest
      return (⟨d.year, d.month, d.day, c.hour, c.minute, c.second, c.nano, offset⟩, rest) := by
  cases hclock with
  | mk hhour hminute hsecond hfraction =>
    simp only [List.append_assoc, List.cons_append]
    rw [scanExact_parts hday hseparator hhour hminute hsecond hfraction hrest,
      if_neg (Nat.not_lt.2 hhour.le_high)]

/-- **A moment with a zone is read from each of its spellings.** -/
lemma scanExact_zoned {d : Day} {c : Clock} {zone : Zone}
    (h : SpellsMoment (.both d c (some zone)) cs) :
    scanExact cs = .ok (readingOf d c zone, []) := by
  cases h with
  | zoned hday hseparator hclock hzone =>
    have hstop := hzone.stopsNumber []
    rw [List.append_nil] at hstop
    rw [scanExact_eq hday hseparator hclock hstop, scanOffset_spelled hzone]
    rfl

/-! ## Moments without a zone -/

/-- A day ends where a separator should stand. -/
lemma scanExact_day {d : Day} (h : SpellsDay d cs) : scanExact cs = .error .tooShort := by
  have hdate : ¬ Date.ofParts? d.year d.month d.day = none := fun hnone =>
    Date.ofParts?_eq_none_iff.1 hnone (isDate_of_spellsDay h)
  cases h with
  | @mk year month day ys ms ds hyear hmonth hday =>
  have hchar : ∀ c cs, scanChar c (c :: cs) = .ok ((), cs) := fun _ _ => if_pos rfl
  have hend := scanNumber_isNumber hday (by decide) []
  rw [List.append_nil] at hend
  rw [scanExact]
  split
  · rfl
  · simp only [scanNumber_isNumber hyear (by decide), scanNumber_isNumber hmonth (by decide), hend,
      hchar, ok_bind, if_neg hdate]
    rfl

/-- An hour has too few digits for a year. -/
lemma scanExact_hour {high hour : Nat} {hs : List Char} (h : IsNumber 2 0 high hour hs)
    (tail : List Char) : ∃ fault, scanExact (hs ++ ':' :: tail) = .error fault := by
  have hyear : ∃ fault, scanNumber 4 4 (hs ++ ':' :: tail) = .error fault := by
    have htaken : ((hs ++ ':' :: tail).take 4).takeWhile Char.isDigit = hs := by
      rw [List.take_append, List.take_of_length_le (by rw [h.length]; decide)]
      exact Text.takeWhile_run h.digits ((Text.stopsAt_cons rfl tail).take _)
    rw [scanNumber]
    simp only [htaken, h.length]
    split
    · exact ⟨_, rfl⟩
    · exact ⟨_, rfl⟩
  obtain ⟨fault, hfault⟩ := hyear
  rw [scanExact]
  split
  · exact ⟨_, rfl⟩
  · rw [hfault]
    exact ⟨_, rfl⟩

lemma scanExact_clock {c : Clock} (h : SpellsClock c cs) : ∃ fault, scanExact cs = .error fault := by
  cases h with
  | mk hhour => exact scanExact_hour hhour _

/-- **A moment without a zone is refused in each of its spellings.** -/
lemma scanExact_unzoned {m : Moment} (h : SpellsMoment m cs) (hm : m.zone? = none) :
    ∃ fault, scanExact cs = .error fault := by
  cases h with
  | day hday => exact ⟨_, scanExact_day hday⟩
  | clock hclock => exact scanExact_clock hclock
  | unzoned hday hseparator hclock =>
    refine ⟨.tooShort, ?_⟩
    have hstops : StopsNumber [] := Text.stopsAt_nil
    have hread := scanExact_eq hday hseparator hclock hstops
    rw [List.append_nil] at hread
    rw [hread]
    rfl
  | zoned => exact nomatch hm

/-! ## The instant of a moment -/

lemma natAbs_minutes_lt {zone : Zone} (h : SpellsZone zone cs) : zone.minutes.natAbs < 1440 := by
  cases h with
  | universal => decide
  | ahead _ hhours hminutes =>
    have := hhours.le_high
    have := hminutes.le_high
    rw [Zone.minutes]
    split <;> omega

/-- What a clock and a calendar may show, in a year with others before and behind it. -/
structure Reading.IsShown (r : Reading) : Prop where
  isDate : Date.IsDate r.year r.month r.day
  year_gt : Date.minYear < r.year
  year_lt : r.year < Date.maxYear
  hour_le : r.hour ≤ 23
  minute_le : r.minute ≤ 59
  second_le : r.second ≤ 60
  nano_lt : r.nano < nanosPerSecond
  offset_lt : r.offset.natAbs < 1440

/-- An offset of less than a day never leads out of the calendar. -/
lemma Reading.IsShown.exists_ofReading {r : Reading} (h : r.IsShown) :
    ∃ i, ofReading r = .ok i := by
  obtain ⟨hdate, hgt, hlt, hhour, hminute, hsecond, hnano, hoffset⟩ := h
  obtain ⟨prev, hprev⟩ := Date.exists_prev? (d := ⟨r.year, r.month, r.day, hdate⟩) hgt
  obtain ⟨next, hnext⟩ := Date.exists_next? (d := ⟨r.year, r.month, r.day, hdate⟩) hlt
  have hparts : Date.ofParts? r.year r.month r.day = some ⟨r.year, r.month, r.day, hdate⟩ :=
    dif_pos hdate
  -- The second of the day, counted in universal time, may lie in the day before or behind.
  generalize hmoved : (r.hour * 3600 + r.minute * 60 + ((r.second - r.second / 60 : Nat) : Int) -
    r.offset * 60) = moved
  have hinstant : ∀ date, ∃ i, ofParts? date (moved % secondsPerDay).toNat
      (r.nano + r.second / 60 * nanosPerSecond) = some i := by
    intro date
    refine ⟨_, dif_pos ⟨?_, ?_, ?_⟩⟩
    · rw [secondsPerDay]
      omega
    · rw [nanosPerSecond] at hnano ⊢
      omega
    · -- The sixtieth second is a leap second, and the one before it ends its minute.
      intro hleap
      rw [nanosPerSecond] at hnano hleap
      have hlast : r.second = 60 := by omega
      rw [hlast] at hmoved
      have hend : moved % 86400 % 60 = 59 := by omega
      rw [secondsPerDay]
      omega
  simp only [ofReading, hparts, if_neg (Nat.not_le.2 hoffset), hmoved]
  by_cases hbefore : moved < 0
  · obtain ⟨i, hi⟩ := hinstant prev
    refine ⟨i, ?_⟩
    simp only [if_pos hbefore, hprev, hi]
    rfl
  by_cases hwithin : moved < secondsPerDay
  · obtain ⟨i, hi⟩ := hinstant ⟨r.year, r.month, r.day, hdate⟩
    refine ⟨i, ?_⟩
    simp only [if_neg hbefore, if_pos hwithin, hi]
    rfl
  · obtain ⟨i, hi⟩ := hinstant next
    refine ⟨i, ?_⟩
    simp only [if_neg hbefore, if_neg hwithin, hnext, hi]
    rfl

lemma isShown_readingOf {d : Day} {c : Clock} {zone : Zone} {ds : List Char} (hday : SpellsDay d ds)
    (hclock : SpellsClock c cs) (hoffset : zone.minutes.natAbs < 1440) :
    (readingOf d c zone).IsShown := by
  have hdate := isDate_of_spellsDay hday
  cases hday with
  | mk hyear =>
  cases hclock with
  | mk hhour hminute hsecond hfraction =>
  refine ⟨hdate, ?_, ?_, hhour.le_high, hminute.le_high, hsecond.le_high, hfraction.lt, hoffset⟩
  · exact Int.lt_of_lt_of_le (by decide) (Int.natCast_nonneg _)
  · exact Int.lt_of_le_of_lt (Int.ofNat_le.2 hyear.le_high) (by decide)

/-- What a spelled moment shows is an instant. -/
lemma exists_ofReading {d : Day} {c : Clock} {zone : Zone}
    (h : SpellsMoment (.both d c (some zone)) cs) : ∃ i, ofReading (readingOf d c zone) = .ok i := by
  cases h with
  | zoned hday hseparator hclock hzone =>
    exact (isShown_readingOf hday hclock (natAbs_minutes_lt hzone)).exists_ofReading

end Instant

end PaymentPlans
