/-
# What a plan file carries over

A plan file is carried over into a request entry by entry, in the order of the file: texts as they
are, and each due date as the instant that it shows.  It is refused exactly if one of the due dates
is no good, and then the first of these is named.  A due date is good if it is a moment with a zone,
a text that spells one, or a table that stands for one; but a moment that is given as a table may
have the hour 24 or a zone of a whole day, which no spelling has, and then it is no good either.
-/
import PaymentPlans.Proofs.Instant.Exact
import PaymentPlans.Proofs.PlanFile.Open
import PaymentPlans.Proofs.PlanFile.Shape

namespace PaymentPlans

namespace PlanFile

open Instant (Reading SpellsReading readingOf)
open Toml (Clock Day Moment SpellsMoment Value Zone)

/-! ## Due dates -/

/-- A due date tells a reading: it is a moment with a zone, a text that spells one, or a table that
stands for one. -/
inductive Tells (Spells : Reading → List Char → Prop) : Value → Reading → Prop where
  | moment {d : Day} {c : Clock} {zone : Zone} :
      Tells Spells (.moment (.both d c (some zone))) (readingOf d c zone)
  | text {s : String} {r : Reading} (hspells : Spells r s.toList) : Tells Spells (.text s) r
  /-- The string of a table that is marked as a moment gives one.  It may go up to the hour 24 and to
  a zone of a whole day, but then it tells nothing. -/
  | table {origin : Toml.Origin} {s : String} {others : Toml.Entries} {d : Day} {c : Clock}
      {zone : Zone} (hmoment : Moment.ofText? s = some (.both d c (some zone)))
      (hhour : c.hour ≤ 23) (hzone : zone.minutes.natAbs < 24 * 60) :
      Tells Spells (.table origin ((Toml.momentKey, .text s) :: others)) (readingOf d c zone)

lemma due_text_eq_ok_iff {s : String} {i : Instant} :
    due (.text s) = .ok i ↔ ∃ r, SpellsReading r s.toList ∧ r.Shows i := by
  rw [due, readDue, mapError_eq_ok, Instant.ofExactText_eq_ok_iff]

lemma due_moment_eq_ok_iff {m : Moment} (hm : m.Fits) {i : Instant} :
    due (.moment m) = .ok i ↔ ∃ d c zone, m = .both d c (some zone) ∧ c.hour ≤ 23 ∧
      zone.minutes.natAbs < 24 * 60 ∧ (readingOf d c zone).Shows i := by
  rw [due, readDue, mapError_eq_ok, Instant.ofExactText_text_eq_ok_iff hm]

/-- A moment that was typed as such has an hour of the day and a zone of less than a day. -/
lemma due_typed_eq_ok_iff {m : Moment} {cs : List Char} (hm : SpellsMoment m cs) {i : Instant} :
    due (.moment m) = .ok i ↔ ∃ r, Tells SpellsReading (.moment m) r ∧ r.Shows i := by
  rw [due_moment_eq_ok_iff hm.fits]
  constructor
  · rintro ⟨d, c, zone, rfl, -, -, hshows⟩
    exact ⟨_, .moment, hshows⟩
  · rintro ⟨r, htells, hshows⟩
    cases htells with
    | moment =>
      cases hm with
      | zoned _ _ hclock hzone =>
        exact ⟨_, _, _, rfl, hclock.hour_le, Instant.natAbs_minutes_lt hzone, hshows⟩

/-- A table is no due date unless it is marked as a moment. -/
lemma due_table_eq_ok_iff {origin : Toml.Origin} {entries : Toml.Entries} {v : Value}
    (hsettled : (Value.table origin entries).settle? = some v) {i : Instant} :
    due v = .ok i ↔ ∃ r, Tells SpellsReading (.table origin entries) r ∧ r.Shows i := by
  rcases entries with _ | ⟨⟨name, value⟩, others⟩
  · rw [Value.settle?] at hsettled
    cases hsettled
    constructor
    · intro h
      cases h
    · rintro ⟨r, htells, -⟩
      cases htells
  rw [Value.settle?] at hsettled
  split at hsettled
  · next hname =>
    subst hname
    cases value with
    | text s =>
      obtain ⟨m, hm, rfl⟩ := Option.map_eq_some_iff.1 hsettled
      rw [due_moment_eq_ok_iff (Toml.fits_of_ofText? hm)]
      constructor
      · rintro ⟨d, c, zone, rfl, hhour, hzone, hshows⟩
        exact ⟨_, .table hm hhour hzone, hshows⟩
      · rintro ⟨r, htells, hshows⟩
        cases htells with
        | table hmoment hhour hzone =>
          obtain rfl := Option.some.inj (hm.symm.trans hmoment)
          exact ⟨_, _, _, rfl, hhour, hzone, hshows⟩
    | _ => cases hsettled
  · next hname =>
    obtain ⟨_, -, hsettled⟩ := Option.bind_eq_some_iff.1 hsettled
    obtain ⟨_, -, hsettled⟩ := Option.bind_eq_some_iff.1 hsettled
    cases hsettled
    constructor
    · intro h
      cases h
    · rintro ⟨r, htells, -⟩
      cases htells
      exact absurd rfl hname

/-- A due date is read as the instant of what it tells. -/
lemma due_settle?_eq_ok_iff {v settled : Value} (hv : v.Spelled) (hsettled : v.settle? = some settled)
    {i : Instant} : due settled = .ok i ↔ ∃ r, Tells SpellsReading v r ∧ r.Shows i := by
  have hneither : due settled ≠ .ok i → (∀ r, ¬ Tells SpellsReading v r) →
      (due settled = .ok i ↔ ∃ r, Tells SpellsReading v r ∧ r.Shows i) := by
    intro hdue htells
    refine iff_of_false hdue ?_
    rintro ⟨r, h, -⟩
    exact htells r h
  cases hv with
  | moment hm =>
    obtain rfl := Option.some.inj hsettled
    exact due_typed_eq_ok_iff hm
  | text s =>
    obtain rfl := Option.some.inj hsettled
    rw [due_text_eq_ok_iff]
    constructor
    · rintro ⟨r, hspells, hshows⟩
      exact ⟨r, .text hspells, hshows⟩
    · rintro ⟨r, htells, hshows⟩
      cases htells with
      | text hspells => exact ⟨r, hspells, hshows⟩
  | table => exact due_table_eq_ok_iff hsettled
  | list | tables =>
    rw [Value.settle?] at hsettled
    obtain ⟨items, -, rfl⟩ := Option.map_eq_some_iff.1 hsettled
    exact hneither (by intro h; cases h) (by intro r h; cases h)
  | integer | float | boolean =>
    obtain rfl := Option.some.inj hsettled
    exact hneither (by intro h; cases h) (by intro r h; cases h)

/-- The due date of a file is read as the instant of what it tells. -/
lemma Entry.IsTyped.due_eq_ok_iff {e : Entry} (he : e.IsTyped) {i : Instant} :
    due e.settled.dueAt = .ok i ↔ ∃ r, Tells SpellsReading e.dueAt r ∧ r.Shows i := by
  obtain ⟨v, hv⟩ := Option.isSome_iff_exists.1 he.settles
  rw [Entry.settled, hv, Option.getD_some]
  exact due_settle?_eq_ok_iff he.spelled hv

/-- Whatever is told is an instant. -/
lemma Tells.exists_shows {v : Value} (hv : v.Spelled) {r : Reading} (h : Tells SpellsReading v r) :
    ∃ i, r.Shows i := by
  have hshown : r.IsShown := by
    cases h with
    | moment =>
      cases hv with
      | moment hm =>
        cases hm with
        | zoned hday _ hclock hzone =>
          exact Instant.isShown_readingOf hday hclock (Instant.natAbs_minutes_lt hzone)
    | text hspells => exact hspells.isShown
    | table hmoment hhour hzone =>
      cases Toml.fits_of_ofText? hmoment with
      | zoned hday hclock =>
        exact Instant.isShown_readingOf hday.spells (hclock.spells hhour) hzone
  obtain ⟨i, hi⟩ := hshown.exists_ofReading
  exact ⟨i, hshown.shows hi⟩

/-! ## Installments -/

/-- The request for an installment has its texts, and it is due when the installment is. -/
lemma Entry.request_eq_ok_iff {e : Entry} {payment : InstallmentRequest} :
    e.request = .ok payment ↔
      due e.dueAt = .ok payment.dueAt ∧ payment.amount = e.amount ∧ payment.currency = e.currency := by
  obtain ⟨amount, currency, dueAt⟩ := payment
  rw [Entry.request, map_eq_ok]
  constructor
  · rintro ⟨i, hdue, h⟩
    obtain ⟨rfl, rfl, rfl⟩ := InstallmentRequest.mk.inj h
    exact ⟨hdue, rfl, rfl⟩
  · rintro ⟨hdue, rfl, rfl⟩
    exact ⟨dueAt, hdue, rfl⟩

/-- An installment can be requested exactly if its due date tells something. -/
lemma Entry.isOk_request_iff {e : Entry} (he : e.IsTyped) :
    (∃ payment, e.settled.request = .ok payment) ↔ ∃ r, Tells SpellsReading e.dueAt r := by
  simp only [Entry.request_eq_ok_iff, he.due_eq_ok_iff]
  constructor
  · rintro ⟨payment, ⟨r, htells, -⟩, -⟩
    exact ⟨r, htells⟩
  · rintro ⟨r, htells⟩
    obtain ⟨i, hshows⟩ := htells.exists_shows he.spelled
    exact ⟨⟨e.amount, e.currency, i⟩, ⟨r, htells, hshows⟩, rfl, rfl⟩

/-- The numbers of the installments count for what goes wrong only. -/
lemma requests_eq_ok_iff {number : Nat} {entries : List Entry} {payments : List InstallmentRequest} :
    requests number entries = .ok payments ↔ entries.mapM Entry.request = .ok payments := by
  induction entries generalizing number payments with
  | nil => simp only [requests, List.mapM_nil, pure, Except.pure, Except.ok.injEq]
  | cons e entries ih =>
    rw [requests, List.mapM_cons]
    simp only [bind_eq_ok, mapError_eq_ok, ih, pure, Except.pure, Except.ok.injEq]

/-- The first installment that cannot be requested is named, whatever stands behind it. -/
lemma requests_eq_error {number : Nat} {before behind : List Entry} {e : Entry} {fault : DueFault}
    (hbefore : ∀ b ∈ before, ∃ payment, b.request = .ok payment) (he : e.request = .error fault) :
    requests number (before ++ e :: behind) =
      .error (.badInstallment (number + before.length) fault) := by
  obtain ⟨payments, hpayments⟩ := isOk_mapM_iff.2 hbefore
  rw [requests_append, requests_eq_ok_iff.2 hpayments, he]
  rfl

/-- What the answer to a file should be, if its due dates are spelled like this. -/
structure CarriedOver (Spells : Reading → List Char → Prop) (file : PlanFile)
    (answer : Except Error PlanRequest) : Prop where
  /-- The file is accepted exactly if all its due dates tell something. -/
  ok_iff : (∃ request, answer = .ok request) ↔ ∀ e ∈ file.entries, ∃ r, Tells Spells e.dueAt r
  /-- The request has the texts of the file. -/
  texts : ∀ request, answer = .ok request → request.id = file.id ∧ request.userId = file.userId ∧
    request.currency = file.currency ∧ request.totalAmount = file.totalAmount
  /-- There is one payment for each installment, in their order, due at the instant that is told. -/
  payments : ∀ request, answer = .ok request →
    List.Forall₂ (fun e payment => payment.amount = e.amount ∧ payment.currency = e.currency ∧
      ∃ r, Tells Spells e.dueAt r ∧ r.Shows payment.dueAt) file.entries request.installments
  /-- The first due date that tells nothing is named, whatever stands behind it. -/
  first : ∀ before e behind, file.entries = before ++ e :: behind →
    (∀ b ∈ before, ∃ r, Tells Spells b.dueAt r) → (¬ ∃ r, Tells Spells e.dueAt r) →
    ∃ error, answer = .error error ∧
      error.message = "installment #" ++ toString (before.length + 1)

/-- A file makes the request that has its texts and the payments of its installments. -/
lemma request_eq_ok_iff {file : PlanFile} {made : PlanRequest} :
    file.request = .ok made ↔ (made.id = file.id ∧ made.userId = file.userId ∧
      made.currency = file.currency ∧ made.totalAmount = file.totalAmount) ∧
      file.entries.mapM Entry.request = .ok made.installments := by
  obtain ⟨id, userId, currency, totalAmount, installments⟩ := made
  rw [request, bind_eq_ok]
  simp only [requests_eq_ok_iff]
  constructor
  · rintro ⟨payments, hpayments, h⟩
    obtain ⟨rfl, rfl, rfl, rfl, rfl⟩ := PlanRequest.mk.inj (Except.ok.inj h)
    exact ⟨⟨rfl, rfl, rfl, rfl⟩, hpayments⟩
  · rintro ⟨⟨rfl, rfl, rfl, rfl⟩, hpayments⟩
    exact ⟨installments, hpayments, rfl⟩

/-- The payments of a file are requested by its installments, each of them settled. -/
lemma settled_request_eq_ok_iff {file : PlanFile} {made : PlanRequest} :
    file.settled.request = .ok made ↔ (made.id = file.id ∧ made.userId = file.userId ∧
      made.currency = file.currency ∧ made.totalAmount = file.totalAmount) ∧
      file.entries.mapM (fun e => e.settled.request) = .ok made.installments := by
  rw [request_eq_ok_iff, settled, List.mapM_map]
  rfl

/-- A file whose due dates were typed is carried over. -/
lemma carriedOver_request {file : PlanFile} (htyped : ∀ e ∈ file.entries, e.IsTyped) :
    CarriedOver SpellsReading file file.settled.request := by
  have hok : ∀ e ∈ file.entries,
      (∃ payment, e.settled.request = .ok payment) ↔ ∃ r, Tells SpellsReading e.dueAt r :=
    fun e he => Entry.isOk_request_iff (htyped e he)
  constructor
  case ok_iff =>
    rw [← forall₂_congr hok, ← isOk_mapM_iff]
    constructor
    · rintro ⟨made, h⟩
      exact ⟨made.installments, (settled_request_eq_ok_iff.1 h).2⟩
    · rintro ⟨payments, hpayments⟩
      exact ⟨⟨file.id, file.userId, file.currency, file.totalAmount, payments⟩,
        settled_request_eq_ok_iff.2 ⟨⟨rfl, rfl, rfl, rfl⟩, hpayments⟩⟩
  case texts => exact fun made h => (settled_request_eq_ok_iff.1 h).1
  case payments =>
    intro made h
    have hall := mapM_eq_ok_iff_forall₂.1 (settled_request_eq_ok_iff.1 h).2
    -- Each payment comes with what is known of the due date that it was made from.
    have hboth := (List.forall₂_and_left _ _).2 ⟨htyped, hall⟩
    refine hboth.imp fun e payment ⟨he, hpayment⟩ => ?_
    obtain ⟨hdue, hamount, hcurrency⟩ := Entry.request_eq_ok_iff.1 hpayment
    exact ⟨hamount, hcurrency, he.due_eq_ok_iff.1 hdue⟩
  case first =>
    intro before e behind hentries hbefore he
    have hsettled : file.settled.entries =
        before.map Entry.settled ++ e.settled :: behind.map Entry.settled := by
      rw [settled, hentries, List.map_append, List.map_cons]
    rw [hentries] at hok
    -- All installments before this one can be requested, but this one cannot.
    have hrequests : ∀ b ∈ before.map Entry.settled, ∃ payment, b.request = .ok payment := by
      rw [List.forall_mem_map]
      exact fun b hb => (hok b (List.mem_append_left _ hb)).2 (hbefore b hb)
    have hnone : ¬ ∃ payment, e.settled.request = .ok payment := fun h =>
      he ((hok e (List.mem_append_right _ List.mem_cons_self)).1 h)
    rcases hfault : e.settled.request with fault | payment
    · refine ⟨.badInstallment (1 + before.length) fault, ?_, ?_⟩
      · rw [request, hsettled, requests_eq_error hrequests hfault, List.length_map]
        rfl
      · rw [Error.message, Nat.add_comm]
    · exact absurd ⟨payment, hfault⟩ hnone

/-! ## Texts of files -/

/-- What is wrong with the installments is the due date of one of them. -/
lemma exists_number_of_requests {number : Nat} {entries : List Entry} {error : Error}
    (h : requests number entries = .error error) : ∃ n fault, error = .badInstallment n fault := by
  induction entries generalizing number with
  | nil => cases h
  | cons e entries ih =>
    rw [requests] at h
    rcases he : e.request with fault | payment
    · rw [he] at h
      cases h
      exact ⟨number, fault, rfl⟩
    rcases hentries : requests (number + 1) entries with fault | payments
    · rw [he, hentries] at h
      cases h
      exact ih hentries
    · rw [he, hentries] at h
      cases h

/-- What is taken from a text is a file that it says, once that is settled. -/
lemma exists_says_of_read {text : String} {taken : PlanFile}
    (h : Toml.read text >>= ofToml? = some taken) : ∃ document file,
      Toml.read text = some document ∧ Says document file ∧ file.settled = taken := by
  obtain ⟨document, hread, htaken⟩ := Option.bind_eq_some_iff.1 h
  obtain ⟨file, hsaid, hsettled⟩ := ofToml?_eq_some_iff.1 htaken
  exact ⟨document, file, hread, hsaid, hsettled⟩

/-- A text that says a file is answered with the request of the file, once it is settled. -/
lemma read_eq_request {text : String} {document : Value} {file : PlanFile}
    (hread : Toml.read text = some document) (hsaid : Says document file) :
    read text = file.settled.request := by
  rw [read, hread, Option.bind_eq_bind, Option.bind_some,
    ofToml?_eq_some_iff.2 ⟨file, hsaid, rfl⟩]

/-- Only a text that says no file is misshapen. -/
lemma read_eq_misshapen_iff {text : String} : read text = .error .misshapen ↔
    ¬ ∃ document file, Toml.read text = some document ∧ Says document file := by
  constructor
  · rintro h ⟨document, file, hread, hsaid⟩
    rw [read_eq_request hread hsaid, request] at h
    rcases hrequests : requests 1 file.settled.entries with error | payments
    · obtain ⟨n, fault, rfl⟩ := exists_number_of_requests hrequests
      rw [hrequests] at h
      cases h
    · rw [hrequests] at h
      cases h
  · intro h
    rw [read]
    rcases htaken : Toml.read text >>= ofToml? with _ | taken
    · rfl
    · obtain ⟨document, file, hread, hsaid, -⟩ := exists_says_of_read htaken
      exact absurd ⟨document, file, hread, hsaid⟩ h

/-- **A plan file is carried over entry by entry.**  A text that says a file is accepted exactly if
each due date of the file is good: a moment with a zone, a text that spells one, with a longer minus
sign if need be, or a table that stands for one, of an hour of the day and a zone of less than a day.
Then the request says the same as the file, with each due date as the instant that it shows.  Else
the first installment is named whose due date is no good. -/
theorem carries_entries_over {text : String} {document : Value} {file : PlanFile}
    (hread : Toml.read text = some document) (hsaid : Says document file) :
    CarriedOver SpellsReading file (read text) := by
  rw [read_eq_request hread hsaid]
  exact carriedOver_request (hsaid.isTyped (Toml.spelled_of_read hread))

/-- A plan file whose installments have these due dates. -/
def withDues (dues : List String) : String :=
  "[plan]\nuser_id = \"67e55044-10b1-426f-9247-bb680e5fe0c8\"\ncurrency = \"usdc\"\n" ++
    "total_amount = \"100\"\n" ++
    String.join (dues.map fun due =>
      "[[installments]]\namount = \"50\"\ncurrency = \"usdc\"\ndue_at = " ++ due ++ "\n")

/-- A table that stands for the hour 24. -/
def lateTable : String := "\x7b\"$__toml_private_datetime\" = \"2021-11-10T24:00:00Z\"\x7d"

/-- A plan file with due dates of several kinds, the last of which is such a table. -/
def mixedDues : String :=
  withDues ["2021-11-10T23:00:00-05:00", "\"2021-11-10 23:00:00Z\"", lateTable]

theorem mixedDues_carriedOver : ∃ document file, Toml.read mixedDues = some document ∧
    Says document file ∧ file.entries.length = 3 ∧ CarriedOver SpellsReading file (read mixedDues) ∧
    ∃ error, read mixedDues = .error error ∧ error.message = "installment #3" := by
  have hanswer : (Toml.read mixedDues >>= ofToml?).map (fun taken =>
      (taken.entries.length, (taken.request.map fun _ => ()).mapError Error.message)) =
        some (3, .error "installment #3") := by
    decide +kernel
  obtain ⟨taken, htaken, hanswer⟩ := Option.map_eq_some_iff.1 hanswer
  obtain ⟨hlength, hmessage⟩ := Prod.mk.inj hanswer
  obtain ⟨document, file, hread, hsaid, rfl⟩ := exists_says_of_read htaken
  rw [settled, List.length_map] at hlength
  refine ⟨document, file, hread, hsaid, hlength, carries_entries_over hread hsaid, ?_⟩
  rw [read_eq_request hread hsaid]
  rcases hrefused : file.settled.request with error | made
  · rw [hrefused] at hmessage
    exact ⟨error, rfl, Except.error.inj hmessage⟩
  · rw [hrefused] at hmessage
    cases hmessage

/-- The spellings of a day and a time with a zone in a document, where the minus sign is a hyphen. -/
inductive SpellsStrictly : Reading → List Char → Prop where
  | mk {d : Toml.Day} {c : Toml.Clock} {zone : Toml.Zone} {cs : List Char}
      (hmoment : SpellsMoment (.both d c (some zone)) cs) : SpellsStrictly (readingOf d c zone) cs

/-- A due date with a minus sign that is longer than a hyphen. -/
def longMinusDue : String := "2021-11-10T23:00:00\u221205:00"

/-- A plan file with that due date. -/
def longMinus : String := withDues ["\"" ++ longMinusDue ++ "\""]

/-- The longer minus sign stands in no moment of a document, but a file that has it is accepted. -/
theorem longMinus_not_carriedOver_strictly : ∃ document file,
    Toml.read longMinus = some document ∧ Says document file ∧
      ¬ CarriedOver SpellsStrictly file (read longMinus) := by
  have hanswer : (Toml.read longMinus >>= ofToml?).map (fun taken =>
      (taken.entries.map fun e => e.dueAt.text?, taken.request.toOption.isSome)) =
        some ([some longMinusDue], true) := by
    decide +kernel
  obtain ⟨taken, htaken, hanswer⟩ := Option.map_eq_some_iff.1 hanswer
  obtain ⟨hentries, haccepted⟩ := Prod.mk.inj hanswer
  obtain ⟨document, file, hread, hsaid, rfl⟩ := exists_says_of_read htaken
  refine ⟨document, file, hread, hsaid, fun h => ?_⟩
  have hok : ∃ request, read longMinus = .ok request := by
    rw [read_eq_request hread hsaid]
    rcases hrequest : file.settled.request with error | made
    · rw [hrequest] at haccepted
      cases haccepted
    · exact ⟨made, rfl⟩
  obtain ⟨⟨amount, currency, dueAt⟩, he, hdue⟩ :
      ∃ e ∈ file.entries, e.settled.dueAt.text? = some longMinusDue := by
    rw [settled, List.map_map] at hentries
    rw [← List.mem_map]
    exact hentries ▸ List.mem_singleton_self _
  obtain ⟨r, htells⟩ := h.ok_iff.1 hok _ he
  cases htells with
  | moment => cases hdue
  | table hmoment =>
    rw [Entry.settled, Value.settle?, if_pos rfl, Value.marked?, hmoment] at hdue
    cases hdue
  | text hspells =>
    obtain ⟨hmoment⟩ := hspells
    have hminus : '\u2212' ∈ longMinusDue.toList := by decide
    rw [← Option.some.inj hdue] at hminus
    exact absurd (hmoment.isMomentChar _ hminus) (by decide)

end PlanFile

end PaymentPlans
