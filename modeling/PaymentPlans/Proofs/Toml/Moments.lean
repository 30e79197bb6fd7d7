/-
# The moments of a document

Each moment of a document is spelled in it, and so it has a month that a year has and an hour that a
day has: putting values together adds no moment.  A string that a table gives for a moment may go up
to the hour 24 and to a zone of a whole day, which no spelling has.
-/
import PaymentPlans.Proofs.Instant.Spelling
import PaymentPlans.Proofs.Toml.Place
import PaymentPlans.Proofs.Traversal
import PaymentPlans.Toml.Reader

namespace PaymentPlans.Toml

open Text (digitsWidth)

variable {cs rest : List Char}

/-! ## Bounds -/

/-- A day of the calendar, in a year of four digits. -/
structure Day.Fits (d : Day) : Prop where
  year_le : d.year ≤ 9999
  one_le_month : 1 ≤ d.month
  month_le : d.month ≤ 12
  one_le_day : 1 ≤ d.day
  day_le : d.day ≤ Date.daysInMonth d.year d.month

/-- A time of day, or one in the hour behind the last, which has no spelling. -/
structure Clock.Fits (c : Clock) : Prop where
  hour_le : c.hour ≤ 24
  minute_le : c.minute ≤ 59
  second_le : c.second ≤ 60
  nano_lt : c.nano < 10 ^ 9

/-- A zone that is ahead by a day at most; by a whole day it has no spelling. -/
def Zone.Fits (zone : Zone) : Prop := zone.minutes.natAbs ≤ zoneLimit

/-- A moment within the bounds of what a string gives. -/
inductive Moment.Fits : Moment → Prop where
  | day {d : Day} (hday : d.Fits) : Fits (.day d)
  | clock {c : Clock} (hclock : c.Fits) : Fits (.clock c)
  | unzoned {d : Day} {c : Clock} (hday : d.Fits) (hclock : c.Fits) : Fits (.both d c none)
  | zoned {d : Day} {c : Clock} {zone : Zone} (hday : d.Fits) (hclock : c.Fits)
      (hzone : zone.Fits) : Fits (.both d c (some zone))

lemma fits_of_scanDay {d : Day} (h : scanDay cs = some (d, rest)) : d.Fits := by
  obtain ⟨_, -, hyear, hmonth, hday⟩ := exists_spellsDay h
  exact ⟨hyear.le_high, hmonth.low_le, hmonth.le_high, hday.low_le, hday.le_high⟩

lemma fits_of_scanClock {c : Clock} (h : scanClock .lax cs = some (c, rest)) : c.Fits := by
  obtain ⟨⟨hour, cs₁⟩, hhour, h⟩ := Option.bind_eq_some_iff.1 h
  obtain ⟨⟨_, cs₂⟩, -, h⟩ := Option.bind_eq_some_iff.1 h
  obtain ⟨⟨minute, cs₃⟩, hminute, h⟩ := Option.bind_eq_some_iff.1 h
  obtain ⟨⟨_, cs₄⟩, -, h⟩ := Option.bind_eq_some_iff.1 h
  obtain ⟨⟨second, cs₅⟩, hsecond, h⟩ := Option.bind_eq_some_iff.1 h
  obtain ⟨⟨nano, cs₆⟩, hnano, h⟩ := Option.bind_eq_some_iff.1 h
  obtain ⟨rfl, rfl⟩ := Prod.mk.inj (Option.some.inj h)
  obtain ⟨_, -, hhs⟩ := scanNumber_eq_some_iff.1 hhour
  obtain ⟨_, -, hms⟩ := scanNumber_eq_some_iff.1 hminute
  obtain ⟨_, -, hss⟩ := scanNumber_eq_some_iff.1 hsecond
  obtain ⟨_, -, hfs⟩ := exists_spellsFraction hnano
  exact ⟨hhs.le_high, hms.le_high, hss.le_high, hfs.lt⟩

lemma fits_of_scanZone {limits : Limits} {zone : Zone}
    (h : scanZone limits cs = some (some zone, rest)) : zone.Fits := by
  rcases cs with _ | ⟨c, cs⟩
  · cases h
  rw [scanZone] at h
  split at h
  · obtain ⟨hzone, -⟩ := Prod.mk.inj (Option.some.inj h)
    rw [← Option.some.inj hzone]
    exact Nat.zero_le _
  split at h
  · obtain ⟨⟨hours, cs₁⟩, -, h⟩ := Option.bind_eq_some_iff.1 h
    obtain ⟨⟨_, cs₂⟩, -, h⟩ := Option.bind_eq_some_iff.1 h
    obtain ⟨⟨minutes, cs₃⟩, -, h⟩ := Option.bind_eq_some_iff.1 h
    dsimp only at h
    split at h
    · next hsize =>
      obtain ⟨hzone, -⟩ := Prod.mk.inj (Option.some.inj h)
      rw [← Option.some.inj hzone, Zone.Fits, Zone.minutes]
      split <;> omega
    · cases h
  · obtain ⟨hzone, -⟩ := Prod.mk.inj (Option.some.inj h)
    cases hzone

lemma fits_of_scanMoment {m : Moment} (h : scanMoment .lax cs = some (m, rest)) : m.Fits := by
  rw [scanMoment] at h
  split at h
  · obtain ⟨⟨c, cs₁⟩, hclock, hm⟩ := Option.map_eq_some_iff.1 h
    obtain ⟨rfl, rfl⟩ := Prod.mk.inj hm
    exact .clock (fits_of_scanClock hclock)
  next d cs₁ hday =>
  split at h
  · obtain ⟨rfl, rfl⟩ := Prod.mk.inj (Option.some.inj h)
    exact .day (fits_of_scanDay hday)
  next c cs₂ htime =>
  obtain ⟨⟨zone, cs₃⟩, hzone, hm⟩ := Option.map_eq_some_iff.1 h
  obtain ⟨rfl, rfl⟩ := Prod.mk.inj hm
  have hclock : c.Fits := by
    rcases cs₁ with _ | ⟨separator, cs₁⟩
    · cases htime
    rw [scanTimeOfDay] at htime
    split at htime
    · exact fits_of_scanClock htime
    · cases htime
  rcases zone with _ | zone
  · exact .unzoned (fits_of_scanDay hday) hclock
  · exact .zoned (fits_of_scanDay hday) hclock (fits_of_scanZone hzone)

/-- **What a string gives is within bounds.** -/
lemma fits_of_ofText? {text : String} {m : Moment} (h : Moment.ofText? text = some m) : m.Fits := by
  rw [Moment.ofText?] at h
  split at h
  · next m' hscan =>
    obtain rfl := Option.some.inj h
    exact fits_of_scanMoment hscan
  · exact nomatch h

/-! ## Their spellings -/

lemma isNumber_digitsWidth {count low high n : Nat} (hcount : 0 < count) (hn : n < 10 ^ count)
    (hlow : low ≤ n) (hhigh : n ≤ high) : IsNumber count low high n (digitsWidth count n) where
  length := Text.length_digitsWidth_of_lt hcount hn
  digits := fun _ => Text.isDigit_of_mem_digitsWidth
  value := Text.ofDigits_digitsWidth _ _
  low_le := hlow
  le_high := hhigh

lemma Day.Fits.spells {d : Day} (h : d.Fits) : SpellsDay d d.chars := by
  have hdays := Date.daysInMonth_le d.year d.month
  obtain ⟨hyear, hlow, hhigh, hone, hday⟩ := h
  exact .mk (isNumber_digitsWidth (by decide) (by omega) (Nat.zero_le _) hyear)
    (isNumber_digitsWidth (by decide) (by omega) hlow hhigh)
    (isNumber_digitsWidth (by decide) (by omega) hone hday)

lemma Clock.Fits.spells {c : Clock} (h : c.Fits) (hhour : c.hour ≤ 23) : SpellsClock c c.chars := by
  obtain ⟨-, hminute, hsecond, hnano⟩ := h
  exact .mk (isNumber_digitsWidth (by decide) (by omega) (Nat.zero_le _) hhour)
    (isNumber_digitsWidth (by decide) (by omega) (Nat.zero_le _) hminute)
    (isNumber_digitsWidth (by decide) (by omega) (Nat.zero_le _) hsecond)
    (spellsFraction_fractionChars hnano)

/-- Hours and minutes behind a sign, as they are written. -/
lemma Zone.Fits.chars_eq {minutes : Int} (h : (Zone.ahead minutes).Fits) :
    ∃ (sign : Char) (hours rest : Nat) (hs ms : List Char),
      (Zone.ahead minutes).chars = sign :: (hs ++ ':' :: ms) ∧ (sign = '+' ∨ sign = '-') ∧
      IsNumber 2 0 24 hours hs ∧ IsNumber 2 0 59 rest ms ∧
      (if sign = '+' then ((hours * 60 + rest : Nat) : Int) else -(hours * 60 + rest : Nat)) =
        minutes := by
  have hle : minutes.natAbs ≤ 1440 := h
  refine ⟨if minutes < 0 then '-' else '+', minutes.natAbs / 60, minutes.natAbs % 60, _, _, rfl, ?_,
    isNumber_digitsWidth (by decide) (by omega) (Nat.zero_le _) (by omega),
    isNumber_digitsWidth (by decide) (by omega) (Nat.zero_le _) (by omega), ?_⟩
  · split
    · exact .inr rfl
    · exact .inl rfl
  · have hwhole : minutes.natAbs / 60 * 60 + minutes.natAbs % 60 = minutes.natAbs :=
      Nat.div_add_mod' _ _
    rw [hwhole]
    by_cases hbehind : minutes < 0
    · rw [if_pos hbehind, if_neg (by decide)]
      omega
    · rw [if_neg hbehind, if_pos rfl]
      omega

lemma Zone.Fits.spells {zone : Zone} (h : zone.Fits) (hlt : zone.minutes.natAbs < 1440) :
    SpellsZone zone zone.chars := by
  cases zone with
  | universal => exact .universal (.inl rfl)
  | ahead minutes =>
    obtain ⟨sign, hours, rest, hs, ms, hchars, hsign, hhours, hrest, hminutes⟩ := h.chars_eq
    have hsmall : hours ≤ 23 := by
      rw [Zone.minutes, ← hminutes] at hlt
      split at hlt <;> omega
    rw [hchars, ← hminutes]
    exact .ahead hsign ⟨hhours.length, hhours.digits, hhours.value, hhours.low_le, hsmall⟩ hrest

lemma SpellsDay.fits {d : Day} {ds : List Char} (h : SpellsDay d ds) : d.Fits := by
  obtain ⟨hyear, hmonth, hday⟩ := h
  exact ⟨hyear.le_high, hmonth.low_le, hmonth.le_high, hday.low_le, hday.le_high⟩

lemma SpellsClock.fits {c : Clock} (h : SpellsClock c cs) : c.Fits := by
  obtain ⟨hhour, hminute, hsecond, hfraction⟩ := h
  exact ⟨Nat.le_trans hhour.le_high (by decide), hminute.le_high, hsecond.le_high, hfraction.lt⟩

lemma SpellsClock.hour_le {c : Clock} (h : SpellsClock c cs) : c.hour ≤ 23 := by
  obtain ⟨hhour, -⟩ := h
  exact hhour.le_high

lemma SpellsZone.fits {zone : Zone} (h : SpellsZone zone cs) : zone.Fits :=
  Nat.le_of_lt (Instant.natAbs_minutes_lt h)

/-- What is spelled is within bounds. -/
lemma SpellsMoment.fits {m : Moment} (h : SpellsMoment m cs) : m.Fits := by
  cases h with
  | day hday => exact .day hday.fits
  | clock hclock => exact .clock hclock.fits
  | unzoned hday _ hclock => exact .unzoned hday.fits hclock.fits
  | zoned hday _ hclock hzone => exact .zoned hday.fits hclock.fits hzone.fits

/-! ## Values whose moments have spellings -/

/-- All moments in a value have spellings. -/
inductive Value.Spelled : Value → Prop where
  | text (s : String) : Spelled (.text s)
  | integer (n : Int) : Spelled (.integer n)
  | float : Spelled .float
  | boolean (b : Bool) : Spelled (.boolean b)
  | moment {m : Moment} {cs : List Char} (h : SpellsMoment m cs) : Spelled (.moment m)
  | list {items : List Value} (h : ∀ v ∈ items, Spelled v) : Spelled (.list items)
  | tables {items : List Value} (h : ∀ v ∈ items, Spelled v) : Spelled (.tables items)
  | table (origin : Origin) {entries : List (String × Value)} (h : ∀ e ∈ entries, Spelled e.2) :
      Spelled (.table origin entries)

/-- All values of some entries are such. -/
def Entries.Spelled (entries : Entries) : Prop := ∀ e ∈ entries, e.2.Spelled

namespace Entries.Spelled

variable {entries : Entries} {name : String} {value : Value}

lemma nil : Entries.Spelled [] := List.forall_mem_nil _

lemma lookup (h : entries.Spelled) (hvalue : entries.lookup name = some value) : value.Spelled := by
  induction entries with
  | nil => exact nomatch hvalue
  | cons e entries ih =>
    obtain ⟨n, v⟩ := e
    obtain ⟨hv, hentries⟩ := List.forall_mem_cons.1 h
    rw [List.lookup_cons] at hvalue
    split at hvalue
    · exact Option.some.inj hvalue ▸ hv
    · exact ih hentries hvalue

lemma set (h : entries.Spelled) (hvalue : value.Spelled) : (entries.set name value).Spelled := by
  induction entries with
  | nil => exact List.forall_mem_singleton.2 hvalue
  | cons e entries ih =>
    obtain ⟨n, v⟩ := e
    obtain ⟨hv, hentries⟩ := List.forall_mem_cons.1 h
    rw [Entries.set]
    split
    · exact List.forall_mem_cons.2 ⟨hvalue, hentries⟩
    · exact List.forall_mem_cons.2 ⟨hv, ih hentries⟩

lemma setLast (h : entries.Spelled) (hvalue : value.Spelled) :
    (entries.setLast name value).Spelled := by
  rw [Entries.setLast, Entries.Spelled, List.forall_mem_append]
  exact ⟨fun e he => h e (List.mem_of_mem_filter he), List.forall_mem_singleton.2 hvalue⟩

end Entries.Spelled

/-- A change of a table adds no moment without a spelling. -/
def KeepsSpelled (change : Change) : Prop :=
  ∀ origin entries origin' entries', entries.Spelled →
    change origin entries = some (origin', entries') → entries'.Spelled

lemma ActsAt.keepsSpelled {name : String} {react : Origin → Option Value → Option Value}
    {put : Value → Entries → Entries} {change : Change} (h : ActsAt name react put change)
    (hreact : ∀ origin found new, (∀ v ∈ found, v.Spelled) → react origin found = some new →
      new.Spelled)
    (hput : ∀ entries new, entries.Spelled → new.Spelled → (put new entries).Spelled) :
    KeepsSpelled change := by
  intro origin entries origin' entries' hentries hchange
  rw [h] at hchange
  obtain ⟨new, hnew, hput'⟩ := Option.map_eq_some_iff.1 hchange
  obtain ⟨rfl, rfl⟩ := Prod.mk.inj hput'
  exact hput _ _ hentries (hreact _ _ _ (fun v hv => hentries.lookup hv) hnew)

lemma KeepsSpelled.spelled_descend {byDots : Bool} {change : Change} {path : List String}
    (h : KeepsSpelled (descend byDots change path)) {o : Origin} {es : Entries} {new : Value}
    (hes : es.Spelled)
    (hnew : ((descend byDots change path o es).map fun (o, es) => Value.table o es) = some new) :
    new.Spelled := by
  obtain ⟨⟨o', es'⟩, hchange, rfl⟩ := Option.map_eq_some_iff.1 hnew
  exact .table o' (h _ _ _ _ hes hchange)

/-- What is changed at the end of a path is the table there, the last one of a list of tables. -/
lemma spelled_reach {byDots : Bool} {change : Change} {path : List String}
    (h : KeepsSpelled (descend byDots change path)) {found : Option Value} {new : Value}
    (hfound : ∀ v ∈ found, v.Spelled) (hnew : reach byDots change path found = some new) :
    new.Spelled := by
  rcases found with _ | value
  · exact h.spelled_descend .nil hnew
  have hvalue : value.Spelled := hfound value rfl
  cases hvalue with
  | @table o es hes =>
    cases o with
    | headed => cases byDots with
      | true => cases hnew
      | false => exact h.spelled_descend hes hnew
    | closed => cases hnew
    | implied => exact h.spelled_descend hes hnew
    | dotted => exact h.spelled_descend hes hnew
  | @tables items hitems =>
    simp only [reach] at hnew
    split at hnew
    · next o es hlast =>
      obtain ⟨last, hchanged, rfl⟩ := Option.map_eq_some_iff.1 hnew
      refine .tables ?_
      rw [List.forall_mem_append, List.forall_mem_singleton]
      refine ⟨fun v hv => hitems v ((List.dropLast_subset items) hv), ?_⟩
      cases hitems _ (List.mem_of_getLast? hlast) with
      | table _ hes => exact h.spelled_descend hes hchanged
    · cases hnew
  | _ => cases hnew

lemma KeepsSpelled.descend {change : Change} (h : KeepsSpelled change) (byDots : Bool)
    (path : List String) : KeepsSpelled (descend byDots change path) := by
  induction path with
  | nil => exact h
  | cons name path ih =>
    exact (actsAt_descend byDots change name path).keepsSpelled (fun _ _ _ => spelled_reach ih)
      fun _ _ => .set

lemma keepsSpelled_putEntry (key : Key) {value : Value} (hvalue : value.Spelled) :
    KeepsSpelled (putEntry key value) := by
  refine KeepsSpelled.descend ((actsAt_putValue _ _ value).keepsSpelled (fun _ _ new _ hnew => ?_)
    fun _ _ => .set) true key.path
  split at hnew
  · exact Option.some.inj hnew ▸ hvalue
  · exact nomatch hnew

lemma spelled_headed : Value.Spelled (.table .headed []) := .table _ (List.forall_mem_nil _)

lemma keepsSpelled_openTable (name : String) : KeepsSpelled (openTable name) := by
  refine (actsAt_openTable name).keepsSpelled (fun _ found new hfound hnew => ?_) fun _ _ => .setLast
  unfold head at hnew
  split at hnew
  · exact Option.some.inj hnew ▸ spelled_headed
  · next es =>
    cases hfound _ rfl with
    | table _ hes => exact Option.some.inj hnew ▸ .table _ hes
  · exact nomatch hnew

lemma keepsSpelled_openListed (name : String) : KeepsSpelled (openListed name) := by
  refine (actsAt_openListed name).keepsSpelled (fun _ found new hfound hnew => ?_) fun _ _ => .set
  unfold grow at hnew
  split at hnew
  · exact Option.some.inj hnew ▸ .tables (List.forall_mem_singleton.2 spelled_headed)
  · next items =>
    cases hfound _ rfl with
    | tables hitems =>
      refine Option.some.inj hnew ▸ .tables ?_
      rw [List.forall_mem_append]
      exact ⟨hitems, List.forall_mem_singleton.2 spelled_headed⟩
  · exact nomatch hnew

lemma spelled_inlineTable? {members : List (Key × Value)} (h : ∀ m ∈ members, m.2.Spelled)
    {entries : Entries} (htable : inlineTable? members = some entries) : entries.Spelled := by
  obtain ⟨⟨origin, entries'⟩, hfold, rfl⟩ := Option.map_eq_some_iff.1 htable
  refine foldlM_keeps (P := fun table : Origin × Entries => table.2.Spelled) ?_ .nil hfold
  intro table member table' hmember htable hput
  exact keepsSpelled_putEntry member.1 (h member hmember) _ _ _ _ htable hput

/-! ## What is written -/

/-- All values that are taken are such. -/
def TakesSpelled (scan : Scan Value) : Prop := ∀ cs v rest, scan cs = some (v, rest) → v.Spelled

lemma spelled_of_scanItemsFuel {scanItem : Scan Value} (h : TakesSpelled scanItem) {fuel : Nat}
    {items : List Value} (hscan : scanItemsFuel scanItem fuel cs = some (items, rest)) :
    ∀ v ∈ items, v.Spelled := by
  induction fuel generalizing cs rest items with
  | zero => exact nomatch hscan
  | succ fuel ih =>
    rw [scanItemsFuel] at hscan
    split at hscan
    · rw [← (Prod.mk.inj (Option.some.inj hscan)).1]
      exact List.forall_mem_nil _
    obtain ⟨⟨item, cs₁⟩, hitem, hscan⟩ := Option.bind_eq_some_iff.1 hscan
    dsimp only at hscan
    split at hscan
    · obtain ⟨⟨others, cs₂⟩, hothers, hscan⟩ := Option.bind_eq_some_iff.1 hscan
      rw [← (Prod.mk.inj (Option.some.inj hscan)).1]
      exact List.forall_mem_cons.2 ⟨h _ _ _ hitem, ih hothers⟩
    · rw [← (Prod.mk.inj (Option.some.inj hscan)).1]
      exact List.forall_mem_singleton.2 (h _ _ _ hitem)
    · exact nomatch hscan

lemma spelled_of_scanMembersFuel {scanItem : Scan Value} (h : TakesSpelled scanItem) {fuel : Nat}
    {members : List (Key × Value)}
    (hscan : scanMembersFuel scanItem fuel cs = some (members, rest)) :
    ∀ m ∈ members, m.2.Spelled := by
  induction fuel generalizing cs rest members with
  | zero => exact nomatch hscan
  | succ fuel ih =>
    rw [scanMembersFuel] at hscan
    obtain ⟨⟨key, cs₁⟩, -, hscan⟩ := Option.bind_eq_some_iff.1 hscan
    obtain ⟨⟨_, cs₂⟩, -, hscan⟩ := Option.bind_eq_some_iff.1 hscan
    obtain ⟨⟨value, cs₃⟩, hvalue, hscan⟩ := Option.bind_eq_some_iff.1 hscan
    dsimp only at hscan
    split at hscan
    · obtain ⟨⟨others, cs₄⟩, hothers, hscan⟩ := Option.bind_eq_some_iff.1 hscan
      rw [← (Prod.mk.inj (Option.some.inj hscan)).1]
      exact List.forall_mem_cons.2 ⟨h _ _ _ hvalue, ih hothers⟩
    · rw [← (Prod.mk.inj (Option.some.inj hscan)).1]
      exact List.forall_mem_singleton.2 (h _ _ _ hvalue)
    · exact nomatch hscan

lemma spelled_of_scanMembers {scanItem : Scan Value} (h : TakesSpelled scanItem)
    {members : List (Key × Value)} (hscan : scanMembers scanItem cs = some (members, rest)) :
    ∀ m ∈ members, m.2.Spelled := by
  rw [scanMembers] at hscan
  split at hscan
  · rw [← (Prod.mk.inj (Option.some.inj hscan)).1]
    exact List.forall_mem_nil _
  · exact spelled_of_scanMembersFuel h hscan

lemma spelled_of_integer? {n : Int} {v : Value} (h : integer? n = some v) : v.Spelled := by
  rw [integer?] at h
  split at h
  · exact Option.some.inj h ▸ .integer n
  · exact nomatch h

lemma takesSpelled_scanBase (base : Nat) : TakesSpelled (scanBase base) := by
  intro cs v rest h
  obtain ⟨⟨ds, cs₁⟩, -, h⟩ := Option.bind_eq_some_iff.1 h
  obtain ⟨number, hnumber, h⟩ := Option.bind_eq_some_iff.1 h
  rw [← (Prod.mk.inj (Option.some.inj h)).1]
  exact spelled_of_integer? hnumber

lemma takesSpelled_scanDecimal (negative : Bool) : TakesSpelled (scanDecimal negative) := by
  intro cs v rest h
  obtain ⟨⟨whole, cs₁⟩, -, h⟩ := Option.bind_eq_some_iff.1 h
  obtain ⟨⟨places, cs₂⟩, -, h⟩ := Option.bind_eq_some_iff.1 h
  obtain ⟨⟨power, cs₃⟩, -, h⟩ := Option.bind_eq_some_iff.1 h
  dsimp only at h
  split at h
  · obtain ⟨number, hnumber, h⟩ := Option.bind_eq_some_iff.1 h
    rw [← (Prod.mk.inj (Option.some.inj h)).1]
    exact spelled_of_integer? hnumber
  split at h
  · exact nomatch h
  · rw [← (Prod.mk.inj (Option.some.inj h)).1]
    exact .float

lemma takesSpelled_scanSpecial : TakesSpelled scanSpecial := by
  intro cs v rest h
  unfold scanSpecial at h
  split at h
  · rw [← (Prod.mk.inj (Option.some.inj h)).1]
    exact .float
  · rw [← (Prod.mk.inj (Option.some.inj h)).1]
    exact .float
  · exact nomatch h

/-- A number is no moment. -/
lemma takesSpelled_scanNumeral : TakesSpelled scanNumeral := by
  intro cs v rest h
  have hor : ∀ {negative : Bool} {cs : List Char},
      (scanDecimal negative cs).or (scanSpecial cs) = some (v, rest) → v.Spelled := by
    intro negative cs h
    rcases Option.or_eq_some_iff.1 h with h | ⟨-, h⟩
    · exact takesSpelled_scanDecimal _ _ _ _ h
    · exact takesSpelled_scanSpecial _ _ _ h
  unfold scanNumeral at h
  split at h
  · exact takesSpelled_scanBase _ _ _ _ h
  · exact takesSpelled_scanBase _ _ _ _ h
  · exact takesSpelled_scanBase _ _ _ _ h
  · exact hor h
  · exact hor h
  · exact hor h

/-- All values are taken with moments that are spelled in them. -/
lemma takesSpelled_scanValue (depth : Nat) : TakesSpelled (scanValue depth) := by
  -- Only lists and tables hold other values, and these are nested less deep.
  have hstep : ∀ depth, (∀ d, depth = d + 1 → TakesSpelled (scanValue d)) →
      TakesSpelled (scanValue depth) := by
    intro depth ih cs v rest h
    rcases cs with _ | ⟨c, cs⟩
    · cases depth <;> exact nomatch h
    rw [scanValue.eq_def] at h
    dsimp only at h
    split at h
    · obtain ⟨⟨s, cs₁⟩, -, hv⟩ := Option.map_eq_some_iff.1 h
      exact (Prod.mk.inj hv).1 ▸ .text s
    split at h
    · obtain ⟨⟨s, cs₁⟩, -, hv⟩ := Option.map_eq_some_iff.1 h
      exact (Prod.mk.inj hv).1 ▸ .text s
    split at h
    · obtain ⟨_, -, hv⟩ := Option.map_eq_some_iff.1 h
      exact (Prod.mk.inj hv).1 ▸ .boolean true
    split at h
    · obtain ⟨_, -, hv⟩ := Option.map_eq_some_iff.1 h
      exact (Prod.mk.inj hv).1 ▸ .boolean false
    split at h
    · rcases depth with _ | depth
      · exact nomatch h
      obtain ⟨⟨items, cs₁⟩, hitems, hv⟩ := Option.map_eq_some_iff.1 h
      exact (Prod.mk.inj hv).1 ▸ .list (spelled_of_scanItemsFuel (ih depth rfl) hitems)
    split at h
    · rcases depth with _ | depth
      · exact nomatch h
      obtain ⟨⟨members, cs₁⟩, hmembers, h⟩ := Option.bind_eq_some_iff.1 h
      obtain ⟨entries, hentries, h⟩ := Option.bind_eq_some_iff.1 h
      rw [← (Prod.mk.inj (Option.some.inj h)).1]
      exact .table _ (spelled_inlineTable? (spelled_of_scanMembers (ih depth rfl) hmembers) hentries)
    rcases Option.or_eq_some_iff.1 h with h | ⟨-, h⟩
    · obtain ⟨⟨m, cs₁⟩, hm, hv⟩ := Option.map_eq_some_iff.1 h
      obtain ⟨ms, -, hms⟩ := exists_spellsMoment hm
      exact (Prod.mk.inj hv).1 ▸ .moment hms
    · exact takesSpelled_scanNumeral _ _ _ h
  induction depth with
  | zero => exact hstep 0 nofun
  | succ depth ih =>
    refine hstep _ fun d hd => ?_
    obtain rfl := Nat.succ.inj hd
    exact ih

/-! ## Documents -/

/-- The value of a statement, if it has one, is such. -/
def Statement.Spelled : Statement → Prop
  | .entry _ value => value.Spelled
  | _ => True

lemma spelled_of_scanStatement {statement : Statement}
    (h : scanStatement cs = some (statement, rest)) : statement.Spelled := by
  unfold scanStatement at h
  split at h
  · obtain ⟨⟨key, cs₁⟩, -, h⟩ := Option.bind_eq_some_iff.1 h
    obtain ⟨⟨_, cs₂⟩, -, h⟩ := Option.bind_eq_some_iff.1 h
    obtain ⟨⟨_, cs₃⟩, -, h⟩ := Option.bind_eq_some_iff.1 h
    rw [← (Prod.mk.inj (Option.some.inj h)).1]
    trivial
  · obtain ⟨⟨key, cs₁⟩, -, h⟩ := Option.bind_eq_some_iff.1 h
    obtain ⟨⟨_, cs₂⟩, -, h⟩ := Option.bind_eq_some_iff.1 h
    obtain ⟨⟨_, cs₃⟩, -, h⟩ := Option.bind_eq_some_iff.1 h
    rw [← (Prod.mk.inj (Option.some.inj h)).1]
    trivial
  · obtain ⟨⟨key, cs₁⟩, -, h⟩ := Option.bind_eq_some_iff.1 h
    obtain ⟨⟨_, cs₂⟩, -, h⟩ := Option.bind_eq_some_iff.1 h
    obtain ⟨⟨value, cs₃⟩, hvalue, h⟩ := Option.bind_eq_some_iff.1 h
    obtain ⟨⟨_, cs₄⟩, -, h⟩ := Option.bind_eq_some_iff.1 h
    rw [← (Prod.mk.inj (Option.some.inj h)).1]
    exact takesSpelled_scanValue _ _ _ _ hvalue

lemma spelled_of_readStatementsFuel {fuel : Nat} {statements : List Statement}
    (h : readStatementsFuel fuel cs = some statements) : ∀ s ∈ statements, s.Spelled := by
  induction fuel generalizing cs statements with
  | zero => exact nomatch h
  | succ fuel ih =>
    rw [readStatementsFuel] at h
    split at h
    · exact Option.some.inj h ▸ List.forall_mem_nil _
    · split at h
      · exact Option.some.inj h ▸ List.forall_mem_nil _
      · exact nomatch h
    · obtain ⟨⟨statement, cs₁⟩, hstatement, h⟩ := Option.bind_eq_some_iff.1 h
      obtain ⟨others, hothers, h⟩ := Option.bind_eq_some_iff.1 h
      rw [← Option.some.inj h]
      exact List.forall_mem_cons.2 ⟨spelled_of_scanStatement hstatement, ih hothers⟩

/-- A statement adds no moment without a spelling. -/
lemma spelled_add {d d' : Draft} {statement : Statement} (hd : d.entries.Spelled)
    (hstatement : statement.Spelled) (h : d.add statement = some d') : d'.entries.Spelled := by
  cases statement with
  | entry key value =>
    obtain ⟨_, hchange, rfl⟩ := Option.map_eq_some_iff.1 h
    exact (keepsSpelled_putEntry key hstatement).descend _ _ _ _ _ _ hd hchange
  | header key =>
    obtain ⟨_, hchange, rfl⟩ := Option.map_eq_some_iff.1 h
    exact (keepsSpelled_openTable key.name).descend _ _ _ _ _ _ hd hchange
  | listHeader key =>
    obtain ⟨_, hchange, rfl⟩ := Option.map_eq_some_iff.1 h
    exact (keepsSpelled_openListed key.name).descend _ _ _ _ _ _ hd hchange

/-- **All moments of a document have spellings.** -/
lemma spelled_of_read {text : String} {document : Value} (h : read text = some document) :
    document.Spelled := by
  obtain ⟨entries, hentries, rfl⟩ := Option.map_eq_some_iff.1 h
  obtain ⟨statements, hstatements, hdocument⟩ := Option.bind_eq_some_iff.1 hentries
  obtain ⟨draft, hdraft, rfl⟩ := Option.map_eq_some_iff.1 hdocument
  have hall := spelled_of_readStatementsFuel hstatements
  refine .table _ (foldlM_keeps (P := fun d : Draft => d.entries.Spelled) ?_ .nil hdraft)
  exact fun d statement d' hmem hd => spelled_add hd (hall statement hmem)

end PaymentPlans.Toml
