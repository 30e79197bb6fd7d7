/-
# The written form of an instant

An instant is read back from its written form, in the loose form of reading: years beyond the
four-digit ones stand behind a sign, the fraction of a second gives back all nanoseconds, and a
leap second is the one that is shown as the sixtieth.
-/
import PaymentPlans.Instant.Reader
import PaymentPlans.Proofs.Amount.Written
import PaymentPlans.Proofs.Instant.Kept
import PaymentPlans.Proofs.Text.Front

namespace PaymentPlans.Instant

open Text (StopsAt digitsWidth)

/-! ## Numbers -/

/-- Digits are taken up to what follows them, or up to the most that may be taken. -/
lemma scanNumber_digits {ds rest : List Char} {least most : Nat} (hds : ∀ c ∈ ds, c.isDigit)
    (hleast : least ≤ ds.length) (hmost : ds.length ≤ most)
    (hstop : ds.length = most ∨ StopsAt Char.isDigit rest) (hsmall : Text.ofDigits ds < 1 <<< 63) :
    scanNumber least most (ds ++ rest) = .ok (Text.ofDigits ds, rest) := by
  have htaken : ((ds ++ rest).take most).takeWhile Char.isDigit = ds := by
    rw [List.take_append, List.take_of_length_le hmost]
    refine Text.takeWhile_run hds ?_
    rcases hstop with hall | hstop
    · rw [hall, Nat.sub_self, List.take_zero]
      exact Text.stopsAt_nil
    · exact hstop.take _
  have hbytes : ¬ Text.byteCount (ds ++ rest) < least := by
    have hlength := Text.length_le_byteCount (ds ++ rest)
    rw [List.length_append] at hlength
    omega
  rw [scanNumber]
  simp only [htaken]
  rw [if_neg hbytes, if_neg (Nat.not_lt.2 hleast), if_neg (Nat.not_le.2 hsmall), List.drop_left]

/-- A written number is taken as the number that it is. -/
lemma scanNumber_written {width n least most : Nat} {rest : List Char} (hfits : n < 1 <<< 63)
    (hleast : least ≤ (digitsWidth width n).length) (hmost : (digitsWidth width n).length ≤ most)
    (hstop : (digitsWidth width n).length = most ∨ StopsAt Char.isDigit rest) :
    scanNumber least most (digitsWidth width n ++ rest) = .ok (n, rest) := by
  have hvalue : Text.ofDigits (digitsWidth width n) = n := Text.ofDigits_digitsWidth _ _
  rw [scanNumber_digits (fun _ => Text.isDigit_of_mem_digitsWidth) hleast hmost hstop
    (hvalue.symm ▸ hfits), hvalue]

/-- A number of fixed width is taken whole. -/
lemma scanNumber_digitsWidth {width n : Nat} (hwidth : 0 < width) (hn : n < 10 ^ width)
    (hfits : n < 1 <<< 63) {least : Nat} (hleast : least ≤ width) (rest : List Char) :
    scanNumber least width (digitsWidth width n ++ rest) = .ok (n, rest) := by
  have hlength := Text.length_digitsWidth_of_lt hwidth hn
  exact scanNumber_written hfits (hlength.symm ▸ hleast) (Nat.le_of_eq hlength) (Or.inl hlength)

/-- Digits have no blanks before them. -/
lemma skipBlanks_digitsWidth {width : Nat} (hwidth : 0 < width) (n : Nat) (rest : List Char) :
    skipBlanks (digitsWidth width n ++ rest) = digitsWidth width n ++ rest := by
  refine Text.dropWhile_eq_self ?_
  have hlength := Text.width_le_length_digitsWidth width n
  rcases hdigits : digitsWidth width n with _ | ⟨c, cs⟩
  · rw [hdigits, List.length_nil] at hlength
    omega
  · refine Text.stopsAt_cons (Amount.isBlank_of_isDigit ?_) _
    exact Text.isDigit_of_mem_digitsWidth (hdigits ▸ List.mem_cons_self)

lemma scanLooseBetween_two {low high n : Nat} (hn : n < 100) (hlow : low ≤ n) (hhigh : n ≤ high)
    (rest : List Char) : scanLooseBetween low high (digitsWidth 2 n ++ rest) = .ok (n, rest) := by
  rw [scanLooseBetween, skipBlanks_digitsWidth (by decide), scanBetween,
    scanNumber_digitsWidth (by decide) hn (by omega) (by decide)]
  simp only [ok_bind, if_pos (And.intro hlow hhigh)]
  rfl

/-! ## Parts of an instant -/

/-- A year of many digits is taken up to the hyphen behind it. -/
lemma scanNumber_longYear {n : Nat} (h : n < 1 <<< 63) (rest : List Char) :
    scanNumber 1 (digitsWidth 4 n ++ '-' :: rest).length (digitsWidth 4 n ++ '-' :: rest) =
      .ok (n, '-' :: rest) := by
  have hlength := Text.width_le_length_digitsWidth 4 n
  refine scanNumber_written h (by omega) ?_ (Or.inr (Text.stopsAt_cons rfl _))
  rw [List.length_append]
  exact Nat.le_add_right _ _

/-- A year is taken up to the hyphen behind it. -/
lemma scanLooseYear_yearChars {year : Int} (hlow : Date.minYear ≤ year) (hhigh : year ≤ Date.maxYear)
    (rest : List Char) : scanLooseYear (yearChars year ++ '-' :: rest) = .ok (year, '-' :: rest) := by
  have hrange : -2147483648 ≤ year ∧ year ≤ 2147483647 := by
    simp only [Date.minYear, Date.maxYear] at hlow hhigh
    omega
  have habs : year.natAbs < 1 <<< 63 := by
    have hbig : 1 <<< 63 = 9223372036854775808 := rfl
    omega
  unfold yearChars
  split
  · next hfour =>
    -- Four digits, the first of which is no sign.
    have hn : year.toNat < 10 ^ 4 := by omega
    have hread : scanNumber 1 4 (digitsWidth 4 year.toNat ++ '-' :: rest) =
        .ok (year.toNat, '-' :: rest) :=
      scanNumber_digitsWidth (by decide) hn (by omega) (by decide) _
    have hskip : skipBlanks (digitsWidth 4 year.toNat ++ '-' :: rest) =
        digitsWidth 4 year.toNat ++ '-' :: rest := skipBlanks_digitsWidth (by decide) _ _
    have hlength := Text.length_digitsWidth_of_lt (by decide) hn
    rcases hdigits : digitsWidth 4 year.toNat with _ | ⟨c, cs⟩
    · rw [hdigits] at hlength
      exact nomatch hlength
    have hc : c.isDigit := Text.isDigit_of_mem_digitsWidth (hdigits ▸ List.mem_cons_self)
    rw [hdigits, List.cons_append] at hread hskip
    rw [scanLooseYear, List.cons_append, hskip]
    split
    · next heq =>
      obtain ⟨rfl, -⟩ := List.cons.inj heq
      exact absurd hc (by decide)
    · next heq =>
      obtain ⟨rfl, -⟩ := List.cons.inj heq
      exact absurd hc (by decide)
    · rw [hread]
      simp only [map_ok, ok_bind, Int.toNat_of_nonneg hfour.1, if_pos hrange]
      rfl
  · split
    · next hneg =>
      have hyear : -(year.natAbs : Int) = year := by omega
      have hskip : skipBlanks ('-' :: (digitsWidth 4 year.natAbs ++ '-' :: rest)) =
          '-' :: (digitsWidth 4 year.natAbs ++ '-' :: rest) := rfl
      rw [scanLooseYear, List.cons_append, hskip]
      simp only [scanNumber_longYear habs, map_ok, ok_bind, hyear, if_pos hrange]
      rfl
    · next hneg =>
      have hyear : (year.natAbs : Int) = year := by omega
      have hskip : skipBlanks ('+' :: (digitsWidth 4 year.natAbs ++ '-' :: rest)) =
          '+' :: (digitsWidth 4 year.natAbs ++ '-' :: rest) := rfl
      rw [scanLooseYear, List.cons_append, hskip]
      simp only [scanNumber_longYear habs, map_ok, ok_bind, hyear, if_pos hrange]
      rfl

/-- So many digits of a fraction are taken, and filled up to nine. -/
lemma scanFraction_digitsWidth {width n : Nat} (hwidth : 0 < width) (hmost : width ≤ 9)
    (hn : n < 10 ^ width) (rest : List Char) :
    scanFraction ('.' :: (digitsWidth width n ++ 'Z' :: rest)) =
      .ok (n * 10 ^ (9 - width), 'Z' :: rest) := by
  have hlength := Text.length_digitsWidth_of_lt hwidth hn
  have hfits : n < 1 <<< 63 := by
    have hpow : 10 ^ width ≤ 10 ^ 9 := Nat.pow_le_pow_right (by decide) hmost
    have hbig : 10 ^ 9 < 1 <<< 63 := by decide
    omega
  have hread : scanNumber 1 9 (digitsWidth width n ++ 'Z' :: rest) = .ok (n, 'Z' :: rest) :=
    scanNumber_written hfits (by omega) (by omega) (Or.inr (Text.stopsAt_cons rfl _))
  have hplaces : (digitsWidth width n ++ 'Z' :: rest).length - ('Z' :: rest).length = width := by
    rw [List.length_append, hlength]
    omega
  simp only [scanFraction, hread, ok_bind, hplaces]
  rfl

/-- The fraction of a second is taken up to the `Z`. -/
lemma scanFraction_fractionChars {nano : Nat} (h : nano < nanosPerSecond) (rest : List Char) :
    scanFraction (fractionChars nano ++ 'Z' :: rest) = .ok (nano, 'Z' :: rest) := by
  rw [nanosPerSecond] at h
  unfold fractionChars
  split
  · next hnone =>
    rw [hnone]
    rfl
  split
  · next hmilli =>
    rw [List.cons_append, scanFraction_digitsWidth (by decide) (by decide) (by omega)]
    simp only [Except.ok.injEq, Prod.mk.injEq, and_true]
    omega
  split
  · next hmicro =>
    rw [List.cons_append, scanFraction_digitsWidth (by decide) (by decide) (by omega)]
    simp only [Except.ok.injEq, Prod.mk.injEq, and_true]
    omega
  · rw [List.cons_append, scanFraction_digitsWidth (by decide) (by decide) (by omega), Nat.sub_self,
      Nat.pow_zero, Nat.mul_one]

/-- The sixtieth second is shown in a leap second alone. -/
lemma shownSecond_le (i : Instant) : i.shownSecond ≤ 60 := by
  have hend := i.leap_at_end
  have hnano := i.nano_lt
  simp only [shownSecond, nanosPerSecond] at *
  omega

/-- What is written of an instant. -/
def reading (i : Instant) : Reading where
  year := i.date.year
  month := i.date.month
  day := i.date.day
  hour := i.second / 3600
  minute := i.second / 60 % 60
  second := i.shownSecond
  nano := i.nano % nanosPerSecond
  offset := 0

lemma scanLoose_chars (i : Instant) : scanLoose i.chars = .ok (i.reading, []) := by
  obtain ⟨hyear, hone, hdays⟩ := i.date.isDate
  have hmonth := i.date.month_bounds
  have hday := i.date.day_bounds
  have hsecond := i.second_lt
  have hshown : i.shownSecond ≤ 60 := i.shownSecond_le
  have hnano : i.nano % nanosPerSecond < nanosPerSecond := Nat.mod_lt _ (by decide)
  rw [secondsPerDay] at hsecond
  have htime : i.second / 3600 ≤ 23 ∧ i.second / 60 % 60 ≤ 59 := by omega
  have hhyphen : ∀ cs, scanLooseChar '-' ('-' :: cs) = .ok ((), cs) := fun _ => rfl
  have hcolon : ∀ cs, scanLooseChar ':' (':' :: cs) = .ok ((), cs) := fun _ => rfl
  have hletter : ∀ cs, scanSeparator ('T' :: cs) = .ok ((), cs) := fun _ => rfl
  have hoffset : scanLooseOffset ['Z'] = .ok (0, []) := rfl
  simp only [chars, List.append_assoc, List.cons_append]
  rw [scanLoose, scanLooseYear_yearChars hyear.1 hyear.2]
  simp only [ok_bind, hhyphen, hcolon, hletter, hoffset,
    scanLooseBetween_two (by omega) hmonth.1 hmonth.2,
    scanLooseBetween_two (by omega) hday.1 hday.2,
    scanLooseBetween_two (by omega) (Nat.zero_le _) htime.1,
    scanLooseBetween_two (by omega) (Nat.zero_le _) htime.2,
    scanLooseBetween_two (by omega) (Nat.zero_le _) hshown,
    scanFraction_fractionChars hnano]
  rfl

/-- The second that is written, less the leap second, is the one of the clock. -/
lemma reading_second (i : Instant) :
    i.reading.hour * 3600 + i.reading.minute * 60 + (i.reading.second - i.reading.second / 60) =
      i.second := by
  have hend := i.leap_at_end
  have hnano := i.nano_lt
  simp only [reading, shownSecond, nanosPerSecond] at *
  omega

/-- The nanoseconds that are written, with those of the leap second. -/
lemma reading_nano (i : Instant) :
    i.reading.nano + i.reading.second / 60 * nanosPerSecond = i.nano := by
  have hend := i.leap_at_end
  have hnano := i.nano_lt
  simp only [reading, shownSecond, nanosPerSecond] at *
  omega

lemma ofReading_reading (i : Instant) : ofReading i.reading = .ok i := by
  have hdate : Date.ofParts? i.reading.year i.reading.month i.reading.day = some i.date :=
    Date.ofParts?_eq_some_iff.2 ⟨rfl, rfl, rfl⟩
  have hsecond := i.reading_second
  have hday := i.second_lt
  have hlocal : (i.reading.hour * 3600 + i.reading.minute * 60 +
      ((i.reading.second - i.reading.second / 60 : Nat) : Int) - i.reading.offset * 60) =
        i.second := by
    rw [← hsecond]
    simp only [reading]
    omega
  have hparts : ofParts? i.date i.second i.nano = some i :=
    dif_pos ⟨i.second_lt, i.nano_lt, i.leap_at_end⟩
  have hoffset : ¬ 1440 ≤ i.reading.offset.natAbs := of_decide_eq_true rfl
  have hnotBefore : ¬ (i.second : Int) < 0 := by omega
  have hnotAfter : (i.second : Int) < secondsPerDay := Int.ofNat_lt.2 hday
  have hfits : ((i.second : Int) % secondsPerDay).toNat = i.second := by
    rw [Int.emod_eq_of_lt (Int.not_lt.1 hnotBefore) hnotAfter, Int.toNat_natCast]
  simp only [ofReading, hdate, hlocal, hoffset, reading_nano, if_neg hnotBefore, if_pos hnotAfter,
    hfits, hparts, if_false]
  rfl

/-- **An instant is read back from its written form.** -/
lemma ofLooseText_text (i : Instant) : ofLooseText i.text = .ok i := by
  rw [ofLooseText, text, String.toList_ofList, scanLoose_chars, ok_bind]
  exact ofReading_reading i

end PaymentPlans.Instant
