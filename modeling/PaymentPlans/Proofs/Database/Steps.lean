/-
# Steps in a fixed order

To set up a database is to make some calls in a fixed order, each only after the one before it had
the answer that was hoped for.  The first that has not ends it.  The server may answer anything.
-/
import PaymentPlans.Proofs.Database.Bootstrap
import PaymentPlans.Proofs.Sql.Value

namespace PaymentPlans.Database

open Program (Exchange run exchanges)

/-! ## Calls in a fixed order -/

/-- A call had the answer after which the next one is made. -/
def Succeeds : Exchange Answer → Prop
  | ⟨.connect _, reached⟩ => reached = true
  | ⟨.migrate, applied⟩ => applied = true
  | ⟨.send (.hasDatabase _), reply⟩ => ∃ there, Tells reply there
  | ⟨.send (.createDatabase _), reply⟩ => ∃ rows, reply = .ok rows
  | ⟨.send .hasHistory, reply⟩ => Tells reply true
  | ⟨.send .latestVersion, reply⟩ => ∃ description rows,
      reply = .ok ([.integer schemaVersion, .text description] :: rows)
  | ⟨.send .countRows, reply⟩ => ∃ plans installments rows,
      reply = .ok ([.integer plans, .integer installments] :: rows)
  | ⟨.send _, _⟩ => False

lemma succeeds_connect_iff {url : String} {reached : Bool} :
    Succeeds ⟨.connect url, reached⟩ ↔ reached = true := Iff.rfl

lemma succeeds_hasDatabase_iff {name : String} {reply : Sql.Reply} :
    Succeeds ⟨.send (.hasDatabase name), reply⟩ ↔ ∃ there, Tells reply there := Iff.rfl

/-- Calls were made in their order up to the first that failed, or all of them without failure;
the last argument tells whether none failed. -/
inductive Pursued : List Call → List (Exchange Answer) → Bool → Prop where
  | all : Pursued [] [] true
  | failed {c : Call} {a : Answer c} (fails : ¬ Succeeds ⟨c, a⟩) (calls : List Call) :
      Pursued (c :: calls) [⟨c, a⟩] false
  | next {c : Call} {a : Answer c} {calls : List Call} {asked : List (Exchange Answer)}
      {whole : Bool} (succeeds : Succeeds ⟨c, a⟩) (rest : Pursued calls asked whole) :
      Pursued (c :: calls) (⟨c, a⟩ :: asked) whole

namespace Pursued

variable {calls later : List Call} {asked asked' : List (Exchange Answer)} {whole : Bool}

lemma append (h : Pursued calls asked true) (h' : Pursued later asked' whole) :
    Pursued (calls ++ later) (asked ++ asked') whole := by
  generalize hall : true = all at h
  induction h with
  | all => exact h'
  | failed => exact nomatch hall
  | next succeeds _ ih => exact .next succeeds (ih hall)

/-- Behind a failure there is nothing. -/
lemma append_left (h : Pursued calls asked false) (later : List Call) :
    Pursued (calls ++ later) asked false := by
  generalize hnone : false = none at h
  induction h with
  | all => exact nomatch hnone
  | failed fails calls => exact .failed fails _
  | next succeeds _ ih => exact .next succeeds (ih hnone)

lemma isPrefix (h : Pursued calls asked whole) : asked.map Sigma.fst <+: calls := by
  induction h with
  | all => exact List.prefix_rfl
  | failed fails calls => exact List.prefix_append [_] calls
  | next _ _ ih => exact List.prefix_cons_inj _ |>.2 ih

end Pursued

/-! ## Programs that make them -/

section

variable {α β : Type}

/-- Of some calls in their order all succeeded, and that ended with a value that the answers tell;
or one of them failed, and that ended with an error. -/
def Ended (calls : List Call) (Told : List (Exchange Answer) → α → Prop)
    (asked : List (Exchange Answer)) (value : Except Error α) : Prop :=
  (∃ a, value = .ok a ∧ Told asked a ∧ Pursued calls asked true) ∨
    ∃ e, value = .error e ∧ Pursued calls asked false

/-- A program makes these calls in their order up to the first that fails. -/
def Pursues (p : DatabaseProgram (Except Error α)) (calls : List Call)
    (Told : List (Exchange Answer) → α → Prop) : Prop :=
  ∀ (σ : Type) (answer : (c : Call) → σ → Answer c × σ) (s : σ),
    Ended calls Told (p.exchanges answer s) (p.run answer s).value

/-- A program, and another one with what it gives unless it ends with an error. -/
def andThen (p : DatabaseProgram (Except Error α))
    (f : α → DatabaseProgram (Except Error β)) : DatabaseProgram (Except Error β) :=
  p.bind fun ended => match ended with
    | .error e => .done (.error e)
    | .ok a => f a

variable {calls later : List Call} {Told : List (Exchange Answer) → α → Prop}
variable {Told' : List (Exchange Answer) → β → Prop}

lemma Ended.isPrefix {asked : List (Exchange Answer)} {value : Except Error α}
    (h : Ended calls Told asked value) : asked.map Sigma.fst <+: calls := by
  rcases h with ⟨_, _, _, hasked⟩ | ⟨_, _, hasked⟩ <;> exact hasked.isPrefix

lemma Pursues.done {a : α} (h : Told [] a) : Pursues (.done (.ok a)) [] Told :=
  fun _ _ _ => .inl ⟨a, rfl, h, .all⟩

lemma Pursues.note {p : DatabaseProgram (Except Error α)} (h : Pursues p calls Told) (n : Event) :
    Pursues (.note n p) calls Told := h

lemma Pursues.imp {Told' : List (Exchange Answer) → α → Prop} {p : DatabaseProgram (Except Error α)}
    (h : Pursues p calls Told) (htold : ∀ asked a, Told asked a → Told' asked a) :
    Pursues p calls Told' :=
  fun σ answer s => (h σ answer s).imp_left fun ⟨a, hvalue, ha, hasked⟩ =>
    ⟨a, hvalue, htold _ a ha, hasked⟩

/-- A call, and what follows if it succeeds; else there is an error at once. -/
lemma Pursues.call {c : Call} {next : Answer c → DatabaseProgram (Except Error α)}
    (fails : ∀ a, ¬ Succeeds ⟨c, a⟩ → ∃ e, next a = .done (.error e))
    (goes : ∀ a, Succeeds ⟨c, a⟩ →
      Pursues (next a) calls fun asked b => Told (⟨c, a⟩ :: asked) b) :
    Pursues (.call c next) (c :: calls) Told := by
  intro σ answer s
  rw [run, exchanges]
  rcases answer c s with ⟨a, s'⟩
  by_cases hsucceeds : Succeeds ⟨c, a⟩
  · rcases goes a hsucceeds σ answer s' with ⟨b, hvalue, htold, hasked⟩ | ⟨e, hvalue, hasked⟩
    · exact .inl ⟨b, hvalue, htold, .next hsucceeds hasked⟩
    · exact .inr ⟨e, hvalue, .next hsucceeds hasked⟩
  · obtain ⟨e, he⟩ := fails a hsucceeds
    refine .inr ⟨e, ?_, ?_⟩ <;> dsimp only <;> rw [he]
    · rfl
    · exact .failed hsucceeds calls

/-- Programs one after the other make their calls one after the other. -/
lemma Ended.andThen {σ : Type} {answer : (c : Call) → σ → Answer c × σ} {s : σ}
    {p : DatabaseProgram (Except Error α)} {f : α → DatabaseProgram (Except Error β)}
    (hp : Ended calls Told (p.exchanges answer s) (p.run answer s).value)
    (hf : ∀ front a, Told front a → Pursues (f a) later fun asked b => Told' (front ++ asked) b) :
    Ended (calls ++ later) Told' ((andThen p f).exchanges answer s)
      ((andThen p f).run answer s).value := by
  rw [Database.andThen, Program.run_bind, Program.exchanges_bind]
  dsimp only
  rcases hp with ⟨a, hvalue, htold, hasked⟩ | ⟨e, hvalue, hasked⟩
  · rw [hvalue]
    rcases hf _ a htold σ answer (p.run answer s).state with
      ⟨b, hvalue', htold', hasked'⟩ | ⟨e, hvalue', hasked'⟩
    · exact .inl ⟨b, hvalue', htold', hasked.append hasked'⟩
    · exact .inr ⟨e, hvalue', hasked.append hasked'⟩
  · rw [hvalue]
    refine .inr ⟨e, rfl, ?_⟩
    rw [exchanges, List.append_nil]
    exact hasked.append_left later

lemma Pursues.andThen {p : DatabaseProgram (Except Error α)}
    {f : α → DatabaseProgram (Except Error β)} (hp : Pursues p calls Told)
    (hf : ∀ front a, Told front a → Pursues (f a) later fun asked b => Told' (front ++ asked) b) :
    Pursues (andThen p f) (calls ++ later) Told' :=
  fun σ answer s => (hp σ answer s).andThen hf

/-- What a program gives is only made into something else. -/
lemma Pursues.map {p : DatabaseProgram (Except Error α)} (hp : Pursues p calls Told) (f : α → β)
    (htold : ∀ asked a, Told asked a → Told' asked (f a)) :
    Pursues (Database.andThen p fun a => .done (.ok (f a))) calls Told' := by
  rw [← List.append_nil calls]
  refine hp.andThen fun front a ha => .done ?_
  rw [List.append_nil]
  exact htold front a ha

lemma mem_exchanges_andThen {σ : Type} {answer : (c : Call) → σ → Answer c × σ} {s : σ}
    {p : DatabaseProgram (Except Error α)} {f : α → DatabaseProgram (Except Error β)}
    {x : Exchange Answer} (hx : x ∈ (andThen p f).exchanges answer s) :
    x ∈ p.exchanges answer s ∨ ∃ a s', x ∈ (f a).exchanges answer s' := by
  rw [Database.andThen, Program.exchanges_bind, List.mem_append] at hx
  refine hx.imp_right fun hrest => ?_
  rcases hvalue : (p.run answer s).value with e | a
  · rw [hvalue] at hrest
    exact absurd hrest List.not_mem_nil
  · rw [hvalue] at hrest
    exact ⟨a, _, hrest⟩

end

/-! ## The steps -/

/-- The calls that make sure of a database, which is created unless it is there. -/
def ensuring (url name : String) (there : Bool) : List Call :=
  [.connect url, .send (.hasDatabase name)] ++ if there then [] else [.send (.createDatabase name)]

/-- It is known whether a database is there, if the server was asked and has told. -/
def Known (name : String) (there : Bool) (asked : List (Exchange Answer)) : Prop :=
  ∀ found, ⟨.send (.hasDatabase name), found⟩ ∈ asked → ∀ told, Tells found told → told = there

lemma Ensured.ended {url name : String} {asked : List (Exchange Answer)}
    {value : Except Error Bool} (h : Ensured url name asked value) :
    ∃ there, Known name there asked ∧
      Ended (ensuring url name there) (fun _ _ => True) asked value := by
  have hreached : Succeeds ⟨.connect url, true⟩ := rfl
  cases h with
  | notReached =>
    refine ⟨true, fun found hfound => ?_, .inr ⟨_, rfl, .failed ?_ _⟩⟩
    · simp at hfound
    · rw [succeeds_connect_iff]
      exact Bool.false_ne_true
  | unknown found silent =>
    refine ⟨true, fun found' hfound told htells => ?_,
      .inr ⟨_, rfl, .next hreached (.failed ?_ _)⟩⟩
    · obtain rfl : found' = found := by simpa using hfound
      exact absurd htells (silent told)
    · rw [succeeds_hasDatabase_iff]
      exact not_exists.2 silent
  | present found tells =>
    refine ⟨true, fun found' hfound told htells => ?_,
      .inl ⟨_, rfl, trivial, .next hreached (.next ⟨true, tells⟩ .all)⟩⟩
    obtain rfl : found' = found := by simpa using hfound
    exact htells.unique tells
  | refused found tells failure =>
    have hrefused : ¬ Succeeds ⟨.send (.createDatabase name), .error failure⟩ :=
      fun ⟨_, h⟩ => nomatch h
    refine ⟨false, fun found' hfound told htells => ?_,
      .inr ⟨_, rfl, .next hreached (.next ⟨false, tells⟩ (.failed hrefused _))⟩⟩
    obtain rfl : found' = found := by simpa using hfound
    exact htells.unique tells
  | created found tells rows =>
    refine ⟨false, fun found' hfound told htells => ?_,
      .inl ⟨_, rfl, trivial, .next hreached (.next ⟨false, tells⟩ (.next ⟨rows, rfl⟩ .all))⟩⟩
    obtain rfl : found' = found := by simpa using hfound
    exact htells.unique tells

lemma pursues_openPool (config : Config) :
    Pursues (openPool config) [.connect config.url] fun _ _ => True := by
  have hcall : openPool config = .call (.connect config.url) fun reached =>
      .done (if reached then .ok () else .error (.notReached config.url)) := by
    refine congrArg (Program.call _) (funext fun reached => ?_)
    cases reached <;> rfl
  rw [hcall]
  refine .call (fun reached hfails => ⟨.notReached config.url, ?_⟩) fun reached hsucceeds => ?_
  · rw [succeeds_connect_iff] at hfails
    rw [if_neg hfails]
  · rw [succeeds_connect_iff] at hsucceeds
    rw [if_pos hsucceeds]
    exact .done trivial

/-- The columns of a schema in the history. -/
def SchemaVersion.cells (schema : SchemaVersion) : Sql.Row :=
  [.integer schema.version, .text schema.description]

lemma SchemaVersion.decode?_eq_some_iff (cells : Sql.Row) (schema : SchemaVersion) :
    SchemaVersion.decode? cells = some schema ↔ cells = schema.cells := by
  constructor
  · intro h
    unfold SchemaVersion.decode? at h
    split at h
    · simp only [Option.bind_eq_bind, Option.bind_eq_some_iff, Sql.Value.integer?_eq_some_iff,
        Sql.Value.text?_eq_some_iff] at h
      obtain ⟨_, rfl, _, rfl, hschema⟩ := h
      rw [← Option.some.inj hschema]
      rfl
    · exact nomatch h
  · rintro rfl
    rfl

/-- The columns of both counts. -/
def RowCounts.cells (counts : RowCounts) : Sql.Row :=
  [.integer counts.plans, .integer counts.installments]

lemma RowCounts.decode?_eq_some_iff (cells : Sql.Row) (counts : RowCounts) :
    RowCounts.decode? cells = some counts ↔ cells = counts.cells := by
  constructor
  · intro h
    unfold RowCounts.decode? at h
    split at h
    · simp only [Option.bind_eq_bind, Option.bind_eq_some_iff, Sql.Value.integer?_eq_some_iff] at h
      obtain ⟨_, rfl, _, rfl, hcounts⟩ := h
      rw [← Option.some.inj hcounts]
      rfl
    · exact nomatch h
  · rintro rfl
    rfl

/-- What is said of the newest schema that there may be. -/
def checked : Option (Option SchemaVersion) → DatabaseProgram (Except Error SchemaVersion)
  | none => .done (.error .versionUnknown)
  | some none => .done (.error .noVersion)
  | some (some newest) =>
    if newest.version = schemaVersion then
      .note (.schemaReady newest.version newest.description) (.done (.ok newest))
    else .done (.error (.otherVersion newest.version))

/-- How the schema is checked once it is known whether there is a history. -/
def checkedIn : Option Bool → DatabaseProgram (Except Error SchemaVersion)
  | none => .done (.error .historyUnknown)
  | some false => .done (.error .noVersion)
  | some true => .call (.send .latestVersion) fun reply =>
      checked (reply.atMostOne? SchemaVersion.decode?)

lemma applySchema_eq_call : applySchema = .call .migrate fun applied =>
    bif applied then .call (.send .hasHistory) fun reply =>
      checkedIn (reply.one? fun row => row.head? >>= Sql.Value.bool?)
    else .done (.error .schemaNotApplied) := by
  refine congrArg (Program.call _) (funext fun applied => ?_)
  cases applied
  · rfl
  refine congrArg (Program.call _) (funext fun reply => ?_)
  simp only [Program.done_bind]
  rcases Sql.Reply.one? _ reply with _ | _ | _
  · rfl
  · rfl
  refine congrArg (Program.call _) (funext fun reply => ?_)
  simp only [Program.done_bind]
  rcases Sql.Reply.atMostOne? _ reply with _ | _ | newest
  · rfl
  · rfl
  · rw [checked]
    exact ite_congr rfl (fun _ => rfl) fun _ => rfl

/-- The newest schema of the history, in the answer to the question for it. -/
def TellsSchema (asked : List (Exchange Answer)) (schema : SchemaVersion) : Prop :=
  ∃ rows, ⟨.send .latestVersion, .ok (schema.cells :: rows)⟩ ∈ asked

lemma succeeds_latestVersion_iff {reply : Sql.Reply} :
    Succeeds ⟨.send .latestVersion, reply⟩ ↔
      ∃ newest, reply.atMostOne? SchemaVersion.decode? = some (some newest) ∧
        newest.version = schemaVersion := by
  simp only [Sql.Reply.atMostOne?_eq_some_iff SchemaVersion.decode?_eq_some_iff]
  constructor
  · rintro ⟨description, rows, rfl⟩
    exact ⟨⟨schemaVersion, description⟩, ⟨rows, rfl⟩, rfl⟩
  · rintro ⟨newest, ⟨rows, rfl⟩, hversion⟩
    exact ⟨newest.description, rows, by rw [SchemaVersion.cells, hversion]⟩

/-- A schema that is the one this library works with, and the newest of the history. -/
structure Checked (asked : List (Exchange Answer)) (schema : SchemaVersion) : Prop where
  version : schema.version = schemaVersion
  told : TellsSchema asked schema

/-- What is asked besides does not change what the server told. -/
lemma Checked.mono {asked asked' : List (Exchange Answer)} {schema : SchemaVersion}
    (h : Checked asked schema) (hmore : asked ⊆ asked') : Checked asked' schema :=
  ⟨h.version, h.told.imp fun _ hmem => hmore hmem⟩

lemma pursues_latestVersion : Pursues (checkedIn (some true)) [.send .latestVersion] Checked := by
  refine .call (fun reply hfails => ?_) fun reply hsucceeds => ?_
  · rw [succeeds_latestVersion_iff] at hfails
    rcases hread : reply.atMostOne? SchemaVersion.decode? with _ | _ | newest
    · exact ⟨_, rfl⟩
    · exact ⟨_, rfl⟩
    · have hother : newest.version ≠ schemaVersion := fun h => hfails ⟨newest, hread, h⟩
      exact ⟨.otherVersion newest.version, if_neg hother⟩
  · obtain ⟨newest, hread, hversion⟩ := succeeds_latestVersion_iff.1 hsucceeds
    obtain ⟨rows, rfl⟩ :=
      (Sql.Reply.atMostOne?_eq_some_iff SchemaVersion.decode?_eq_some_iff).1 hread
    rw [hread, checked, if_pos hversion]
    exact .note (.done ⟨hversion, rows, List.mem_singleton_self _⟩) _

lemma pursues_hasHistory :
    Pursues (.call (.send .hasHistory) fun reply =>
        checkedIn (reply.one? fun row => row.head? >>= Sql.Value.bool?))
      [.send .hasHistory, .send .latestVersion] Checked := by
  refine .call (fun reply hfails => ?_) fun reply hsucceeds => ?_
  · rcases hread : reply.one? fun row => row.head? >>= Sql.Value.bool? with _ | _ | _
    · exact ⟨_, rfl⟩
    · exact ⟨_, rfl⟩
    · exact absurd (one?_head?_eq_some_iff.1 hread) hfails
  · rw [one?_head?_eq_some_iff.2 hsucceeds]
    exact pursues_latestVersion.imp fun asked _ h => h.mono (List.subset_cons_self _ asked)

lemma pursues_applySchema :
    Pursues applySchema [.migrate, .send .hasHistory, .send .latestVersion] Checked := by
  rw [applySchema_eq_call]
  refine .call (fun applied hfails => ?_) fun applied hsucceeds => ?_
  · cases applied with
    | false => exact ⟨_, rfl⟩
    | true => exact absurd rfl hfails
  · obtain rfl : applied = true := hsucceeds
    exact pursues_hasHistory.imp fun asked _ h => h.mono (List.subset_cons_self _ asked)

/-- Both counts, in the answer to the question for them. -/
def TellsCounts (asked : List (Exchange Answer)) (counts : RowCounts) : Prop :=
  ∃ rows, ⟨.send .countRows, .ok (counts.cells :: rows)⟩ ∈ asked

lemma TellsCounts.mono {asked asked' : List (Exchange Answer)} {counts : RowCounts}
    (h : TellsCounts asked counts) (hmore : asked ⊆ asked') : TellsCounts asked' counts :=
  h.imp fun _ hmem => hmore hmem

lemma succeeds_countRows_iff {reply : Sql.Reply} :
    Succeeds ⟨.send .countRows, reply⟩ ↔
      ∃ counts, reply.one? RowCounts.decode? = some counts := by
  simp only [Sql.Reply.one?_eq_some_iff RowCounts.decode?_eq_some_iff]
  constructor
  · rintro ⟨plans, installments, rows, rfl⟩
    exact ⟨⟨plans, installments⟩, rows, rfl⟩
  · rintro ⟨counts, rows, rfl⟩
    exact ⟨counts.plans, counts.installments, rows, rfl⟩

lemma pursues_countRows : Pursues countRows [.send .countRows] TellsCounts := by
  have hcall : countRows = .call (.send .countRows) fun reply =>
      .done ((reply.one? RowCounts.decode?).elim (.error .countsUnknown) .ok) := by
    refine congrArg (Program.call _) (funext fun reply => ?_)
    simp only [Program.done_bind]
    cases reply.one? RowCounts.decode? <;> rfl
  rw [hcall]
  refine .call (fun reply hfails => ?_) fun reply hsucceeds => ?_
  · rw [succeeds_countRows_iff, not_exists] at hfails
    rw [Option.eq_none_iff_forall_ne_some.2 hfails]
    exact ⟨_, rfl⟩
  · obtain ⟨counts, hread⟩ := succeeds_countRows_iff.1 hsucceeds
    obtain ⟨rows, rfl⟩ := (Sql.Reply.one?_eq_some_iff RowCounts.decode?_eq_some_iff).1 hread
    rw [hread]
    exact .done ⟨rows, List.mem_singleton_self _⟩

end PaymentPlans.Database
