/-
# The order of instants as a database keeps them

Cutting off what is finer than a microsecond keeps the order of instants, as long as none of them
is a leap second: it never leaves the second that an instant is in, except to the start of the
next one.
-/
import Mathlib.Tactic.Common
import PaymentPlans.Instant.Kept

namespace PaymentPlans

/-! ## Dates -/

namespace Date

lemma daysInMonth_le (year : Int) (month : Nat) : daysInMonth year month ≤ 31 := by
  unfold daysInMonth
  split <;> (try split) <;> omega

lemma daysInMonth_pos_iff (year : Int) (month : Nat) :
    0 < daysInMonth year month ↔ 1 ≤ month ∧ month ≤ 12 := by
  unfold daysInMonth
  split <;> grind

variable {d e next : Date}

lemma month_bounds (d : Date) : 1 ≤ d.month ∧ d.month ≤ 12 := by
  obtain ⟨-, hone, hdays⟩ := d.isDate
  exact (daysInMonth_pos_iff d.year d.month).1 (by omega)

lemma day_bounds (d : Date) : 1 ≤ d.day ∧ d.day ≤ 31 := by
  obtain ⟨-, hone, hdays⟩ := d.isDate
  have := daysInMonth_le d.year d.month
  omega

lemma rank_injective (h : d.rank = e.rank) : d = e := by
  have hd := d.month_bounds
  have he := e.month_bounds
  have hd' := d.day_bounds
  have he' := e.day_bounds
  unfold rank at h
  obtain ⟨year, month, day, _⟩ := d
  obtain ⟨year', month', day', _⟩ := e
  simp only at hd he hd' he' h
  obtain rfl : year = year' := by omega
  obtain rfl : month = month' := by omega
  obtain rfl : day = day' := by omega
  rfl

lemma ofParts?_eq_some_iff {year : Int} {month day : Nat} :
    ofParts? year month day = some d ↔ d.year = year ∧ d.month = month ∧ d.day = day := by
  unfold ofParts?
  constructor
  · split
    · rintro ⟨⟩
      exact ⟨rfl, rfl, rfl⟩
    · exact fun h => nomatch h
  · rintro ⟨rfl, rfl, rfl⟩
    rw [dif_pos d.isDate]

lemma ofParts?_eq_none_iff {year : Int} {month day : Nat} :
    ofParts? year month day = none ↔ ¬ IsDate year month day := by
  unfold ofParts?
  split <;> simpa

/-- The three ways to come to the next day: within the month, to the next month, or to the next
year. -/
lemma next?_eq_some (h : d.next? = some next) :
    (next.year = d.year ∧ next.month = d.month ∧ next.day = d.day + 1) ∨
      (d.day = daysInMonth d.year d.month ∧ next.year = d.year ∧ next.month = d.month + 1 ∧
        next.day = 1) ∨
      (d.day = daysInMonth d.year d.month ∧ d.month = 12 ∧ next.year = d.year + 1 ∧
        next.month = 1 ∧ next.day = 1) := by
  obtain ⟨hyear, hone, hdays⟩ := d.isDate
  have hmonth := d.month_bounds
  unfold next? at h
  cases hday : ofParts? d.year d.month (d.day + 1) with
  | some found =>
    rw [hday, Option.some_or] at h
    obtain rfl := Option.some.inj h
    exact Or.inl (ofParts?_eq_some_iff.1 hday)
  | none =>
    have hlast : d.day = daysInMonth d.year d.month := by
      have := ofParts?_eq_none_iff.1 hday
      unfold IsDate at this
      omega
    rw [hday, Option.none_or] at h
    right
    cases hnext : ofParts? d.year (d.month + 1) 1 with
    | some found =>
      rw [hnext, Option.some_or] at h
      obtain rfl := Option.some.inj h
      exact Or.inl ⟨hlast, ofParts?_eq_some_iff.1 hnext⟩
    | none =>
      have hdecember : d.month = 12 := by
        have hnone := ofParts?_eq_none_iff.1 hnext
        have hpos := daysInMonth_pos_iff d.year (d.month + 1)
        unfold IsDate at hnone
        omega
      rw [hnext, Option.none_or] at h
      exact Or.inr ⟨hlast, hdecember, ofParts?_eq_some_iff.1 h⟩

/-- Before the last year there is always a next day. -/
lemma exists_next? (h : d.year < maxYear) : ∃ next, d.next? = some next := by
  obtain ⟨hyear, hone, hdays⟩ := d.isDate
  have hfirst : IsDate (d.year + 1) 1 1 := by
    refine ⟨by omega, Nat.le_refl 1, ?_⟩
    exact (daysInMonth_pos_iff (d.year + 1) 1).2 (by omega)
  unfold next?
  rw [show ofParts? (d.year + 1) 1 1 = some ⟨d.year + 1, 1, 1, hfirst⟩ from
    ofParts?_eq_some_iff.2 ⟨rfl, rfl, rfl⟩]
  cases ofParts? d.year d.month (d.day + 1) <;> cases ofParts? d.year (d.month + 1) 1 <;>
    exact ⟨_, rfl⟩

lemma rank_lt_rank_next (h : d.next? = some next) : d.rank < next.rank := by
  have hmonth := d.month_bounds
  have hday := d.day_bounds
  unfold rank
  rcases next?_eq_some h with ⟨hy, hm, hd⟩ | ⟨-, hy, hm, hd⟩ | ⟨-, h12, hy, hm, hd⟩ <;>
    rw [hy, hm, hd] <;> omega

/-- There is no date between a date and the next one. -/
lemma rank_next_le (h : d.next? = some next) (he : d.rank < e.rank) : next.rank ≤ e.rank := by
  obtain ⟨-, hone, hdays⟩ := e.isDate
  have hmonth := d.month_bounds
  have hday := d.day_bounds
  have hmonth' := e.month_bounds
  have hday' := e.day_bounds
  unfold rank at he ⊢
  rcases next?_eq_some h with ⟨hy, hm, hd⟩ | ⟨hlast, hy, hm, hd⟩ | ⟨hlast, h12, hy, hm, hd⟩
  · rw [hy, hm, hd]
    omega
  · rw [hy, hm, hd]
    -- A later date of the same month would have a day that the month does not have.
    have hother : ¬ (e.year = d.year ∧ e.month = d.month) := by
      rintro ⟨hyear, hmonth⟩
      rw [hyear, hmonth] at hdays he
      omega
    omega
  · rw [hy, hm, hd]
    -- The same goes for the last month of a year.
    have hother : ¬ (e.year = d.year ∧ e.month = d.month) := by
      rintro ⟨hyear, hmonth⟩
      rw [hyear, hmonth] at hdays he
      omega
    omega

end Date

/-! ## Seconds and what is cut off -/

namespace Instant

variable {a b i : Instant}

/-- Whole microseconds are there in each direction. -/
lemma wholeMicroseconds_mono (year : Int) {nano nano' : Nat} (h : nano ≤ nano') :
    wholeMicroseconds year nano ≤ wholeMicroseconds year nano' := by
  unfold wholeMicroseconds
  split <;> omega

lemma wholeMicroseconds_le (year : Int) {nano : Nat} (h : nano < nanosPerSecond) :
    wholeMicroseconds year nano ≤ nanosPerSecond ∧
      (wholeMicroseconds year nano = nanosPerSecond → year < 2000) := by
  unfold wholeMicroseconds nanosPerSecond at *
  split <;> omega

/-- The second of an instant, counted through all dates. -/
def slot (i : Instant) : Int := i.date.rank * secondsPerDay + i.second

lemma rank_eq (i : Instant) : i.rank = i.slot * (2 * nanosPerSecond) + i.nano := rfl

lemma notAfter_iff : a.notAfter b ↔ a.rank ≤ b.rank := decide_eq_true_iff

lemma slot_le_of_notAfter (h : a.notAfter b) : a.slot ≤ b.slot := by
  have hrank := notAfter_iff.1 h
  have ha := a.nano_lt
  have hb := b.nano_lt
  rw [rank_eq, rank_eq] at hrank
  unfold nanosPerSecond at *
  omega

lemma eq_of_slot_eq (h : a.slot = b.slot) : a.date = b.date ∧ a.second = b.second := by
  have ha := a.second_lt
  have hb := b.second_lt
  unfold slot secondsPerDay at *
  have hdate : a.date.rank = b.date.rank := by omega
  exact ⟨Date.rank_injective hdate, by omega⟩

/-- Nothing is carried as long as it is less than a second. -/
lemma carry?_of_lt {nano : Nat} (h : nano < nanosPerSecond) :
    carry? i.date i.second nano =
      some ⟨i.date, i.second, nano, i.second_lt, by omega, by omega⟩ := by
  have hsecond := i.second_lt
  have hwhole : nano / nanosPerSecond = 0 := Nat.div_eq_of_lt h
  unfold carry?
  simp only [hwhole, Nat.add_zero, hsecond, if_true, Option.bind_some, Nat.mod_eq_of_lt h,
    Nat.mod_eq_of_lt hsecond]
  unfold ofParts?
  rw [dif_pos]
  exact ⟨hsecond, by omega, by omega⟩

/-- A whole second is carried to the start of the next one: no instant is in a second between
these two. -/
lemma carry?_nanosPerSecond (i : Instant) (hyear : i.date.year < 2000) :
    ∃ j, carry? i.date i.second nanosPerSecond = some j ∧ j.nano = 0 ∧ i.slot < j.slot ∧
      ∀ b : Instant, i.slot < b.slot → j.slot ≤ b.slot := by
  have hsecond := i.second_lt
  unfold carry?
  rw [Nat.div_self (by decide), Nat.mod_self]
  by_cases hlast : i.second + 1 < secondsPerDay
  · -- The next second is one of the same day.
    refine ⟨⟨i.date, i.second + 1, 0, hlast, by decide, fun h => absurd h (by decide)⟩, ?_, rfl,
      ?_, ?_⟩
    · simp only [hlast, if_true, Option.bind_some, Nat.mod_eq_of_lt hlast]
      unfold ofParts?
      rw [dif_pos]
      exact ⟨hlast, by decide, fun h => absurd h (by decide)⟩
    · unfold slot
      simp only
      omega
    · intro b hb
      unfold slot at *
      simp only
      omega
  · -- The next second is the first one of the next day, and there is one before the year 2000.
    have hmax : i.date.year < Date.maxYear := by
      unfold Date.maxYear
      omega
    obtain ⟨next, hnext⟩ := Date.exists_next? hmax
    have hrank := Date.rank_lt_rank_next hnext
    have hend : i.second + 1 = secondsPerDay := by omega
    refine ⟨⟨next, 0, 0, by decide, by decide, by decide⟩, ?_, rfl, ?_, ?_⟩
    · simp only [hend, Nat.lt_irrefl, if_false, hnext, Option.bind_some, Nat.mod_self]
      unfold ofParts?
      rw [dif_pos]
      exact ⟨by decide, by decide, by decide⟩
    · unfold slot secondsPerDay at *
      simp only
      omega
    · intro b hb
      have hb' := b.second_lt
      unfold slot secondsPerDay at *
      have hlater : i.date.rank < b.date.rank := by omega
      have := Date.rank_next_le hnext hlater
      simp only
      omega

/-! ## What is kept -/

/-- Outside of leap seconds, only what is finer than a microsecond is given up. -/
lemma kept_eq (h : i.nano < nanosPerSecond) :
    i.kept = (carry? i.date i.second (wholeMicroseconds i.date.year i.nano)).getD latest := by
  unfold kept
  rw [carry?_of_lt h, Option.bind_some]

/-- What is kept is in the second of the instant, unless it fills the second. -/
lemma kept_rank_of_lt (h : i.nano < nanosPerSecond)
    (hw : wholeMicroseconds i.date.year i.nano < nanosPerSecond) :
    i.kept.rank = i.slot * (2 * nanosPerSecond) + wholeMicroseconds i.date.year i.nano := by
  rw [kept_eq h, carry?_of_lt hw, Option.getD_some]
  rfl

/-- What fills the second is kept as the start of the next one. -/
lemma kept_rank_of_eq (h : i.nano < nanosPerSecond)
    (hw : wholeMicroseconds i.date.year i.nano = nanosPerSecond) :
    i.slot * (2 * nanosPerSecond) + nanosPerSecond ≤ i.kept.rank ∧
      ∀ b : Instant, i.slot < b.slot → i.kept.rank ≤ b.slot * (2 * nanosPerSecond) := by
  obtain ⟨j, hj, hnano, hlt, hnext⟩ :=
    carry?_nanosPerSecond i ((wholeMicroseconds_le i.date.year h).2 hw)
  rw [kept_eq h, hw, hj, Option.getD_some, rank_eq, hnano]
  unfold nanosPerSecond
  refine ⟨by omega, fun b hb => ?_⟩
  have := hnext b hb
  omega

lemma slot_le_kept_rank (h : i.nano < nanosPerSecond) :
    i.slot * (2 * nanosPerSecond) ≤ i.kept.rank := by
  rcases Nat.lt_or_ge (wholeMicroseconds i.date.year i.nano) nanosPerSecond with hw | hw
  · have := kept_rank_of_lt h hw
    omega
  · have hw' := (wholeMicroseconds_le i.date.year h).1
    have := (kept_rank_of_eq h (by omega)).1
    omega

lemma kept_rank_le_slot (ha : a.nano < nanosPerSecond) (h : a.slot < b.slot) :
    a.kept.rank ≤ b.slot * (2 * nanosPerSecond) := by
  rcases Nat.lt_or_ge (wholeMicroseconds a.date.year a.nano) nanosPerSecond with hw | hw
  · have := kept_rank_of_lt ha hw
    unfold nanosPerSecond at *
    omega
  · have hw' := (wholeMicroseconds_le a.date.year ha).1
    exact (kept_rank_of_eq ha (by omega)).2 b h

/-- **A database keeps instants in their order**, if none of them is a leap second. -/
theorem kept_notAfter (ha : a.nano < nanosPerSecond) (hb : b.nano < nanosPerSecond)
    (h : a.notAfter b) : a.kept.notAfter b.kept := by
  rw [notAfter_iff]
  rcases Int.lt_or_eq_of_le (slot_le_of_notAfter h) with hslot | hslot
  · exact Int.le_trans (kept_rank_le_slot ha hslot) (slot_le_kept_rank hb)
  · -- In one second the numbers of whole microseconds decide.
    obtain ⟨hdate, hsecond⟩ := eq_of_slot_eq hslot
    have hnano : a.nano ≤ b.nano := by
      have hrank := notAfter_iff.1 h
      rw [rank_eq, rank_eq, hslot] at hrank
      omega
    have hmono := wholeMicroseconds_mono a.date.year hnano
    have hle := (wholeMicroseconds_le b.date.year hb).1
    rw [hdate] at hmono
    rcases Nat.lt_or_eq_of_le hmono with hlt | heq
    · have hkept := kept_rank_of_lt ha (by rw [hdate]; omega)
      rw [hdate, hslot] at hkept
      rcases Nat.lt_or_eq_of_le hle with hw | hw
      · have := kept_rank_of_lt hb hw
        omega
      · have := (kept_rank_of_eq hb hw).1
        omega
    · have hkept : a.kept = b.kept := by
        rw [kept_eq ha, kept_eq hb, hdate, hsecond, heq]
      exact Int.le_of_eq (congrArg rank hkept)

end Instant

end PaymentPlans
