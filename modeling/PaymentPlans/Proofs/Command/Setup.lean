/-
# What is said of a database that is set up

A database is said to be ready only after all steps of setting it up have succeeded, and then with
the version and the numbers that the server told.  After the first step that fails nothing more is
asked of the server, and nothing is said of the database.
-/
import PaymentPlans.Proofs.Command.Plan
import PaymentPlans.Proofs.Database.Steps

namespace PaymentPlans

/-! ## What a machine passes on -/

namespace Machine

open Program (Exchange run exchanges)

/-- The call that is passed on to the database server, with its answer. -/
def passed? : Exchange Answer → Option (Exchange Database.Answer)
  | ⟨.database c, a⟩ => some ⟨c, a⟩
  | _ => none

/-- What a database server is asked, with its answers. -/
def passed (asked : List (Exchange Answer)) : List (Exchange Database.Answer) :=
  asked.filterMap passed?

/-- The lines that are printed, if any are. -/
def Output.line? : Output → Option String
  | printed text => some text
  | logged _ => none

/-- Everything that is printed. -/
def lines (notes : List Output) : List String := notes.filterMap Output.line?

lemma lines_map_logged (events : List Event) : lines (events.map .logged) = [] := by
  rw [lines, List.filterMap_map]
  exact List.filterMap_eq_nil_iff.2 fun _ _ => rfl

section

variable {α σ : Type} {answer : (c : Call) → σ → Answer c × σ}

/-- The answers of a machine to what it passes on. -/
def onDatabase (answer : (c : Call) → σ → Answer c × σ) (c : Database.Call) (s : σ) :
    Database.Answer c × σ :=
  answer (.database c) s

lemma run_ofDatabase (p : DatabaseProgram α) (s : σ) :
    (ofDatabase p).run answer s =
      let r := p.run (onDatabase answer) s
      ⟨r.value, r.state, r.notes.map .logged⟩ := by
  induction p generalizing s with
  | done a => rfl
  | call c next ih => exact ih _ _
  | note n next ih =>
    have hnote : ofDatabase (.note n next) = .note (.logged n) (ofDatabase next) := rfl
    rw [hnote, Program.run, ih]
    rfl

lemma exchanges_ofDatabase (p : DatabaseProgram α) (s : σ) :
    passed ((ofDatabase p).exchanges answer s) = p.exchanges (onDatabase answer) s := by
  induction p generalizing s with
  | done a => rfl
  | call c next ih => exact congrArg (List.cons _) (ih _ _)
  | note n next ih => exact ih s

lemma passed_bind {β : Type} (p : MachineProgram α) (f : α → MachineProgram β) (s : σ) :
    passed ((p.bind f).exchanges answer s) = passed (p.exchanges answer s) ++
      passed ((f (p.run answer s).value).exchanges answer (p.run answer s).state) := by
  rw [Program.exchanges_bind, passed, List.filterMap_append]
  rfl

lemma lines_bind {β : Type} (p : MachineProgram α) (f : α → MachineProgram β) (s : σ) :
    lines ((p.bind f).run answer s).notes = lines (p.run answer s).notes ++
      lines ((f (p.run answer s).value).run answer (p.run answer s).state).notes := by
  rw [Program.run_bind, lines, List.filterMap_append]
  rfl

end

/-! ## Programs that look only -/

/-- A call that leaves everything as it is. -/
def Call.Looks : Call → Prop
  | environment _ | readFile _ | has _ => True
  | _ => False

/-- A program changes nothing, and it says nothing. -/
def OnlyLooks {α : Type} : MachineProgram α → Prop
  | .done _ => True
  | .call c next => c.Looks ∧ ∀ a, OnlyLooks (next a)
  | .note _ _ => False

namespace OnlyLooks

variable {α β σ : Type} {p : MachineProgram α}

lemma bind {f : α → MachineProgram β} (hp : OnlyLooks p) (hf : ∀ a, OnlyLooks (f a)) :
    OnlyLooks (p.bind f) := by
  induction p with
  | done a => exact hf a
  | call c next ih => exact ⟨hp.1, fun a => ih a (hp.2 a)⟩
  | note n next => exact hp.elim

lemma only (hp : OnlyLooks p) : p.Only Call.Looks := by
  induction p with
  | done a => trivial
  | call c next ih => exact ⟨hp.1, fun a => ih a (hp.2 a)⟩
  | note n next => exact hp.elim

variable (answer : (c : Call) → σ → Answer c × σ) (s : σ)

lemma passed_eq_nil (hp : OnlyLooks p) : passed (p.exchanges answer s) = [] := by
  refine List.filterMap_eq_nil_iff.2 fun ⟨c, a⟩ hx => ?_
  have hlooks : c.Looks := hp.only.exchanges answer s _ hx
  cases c with
  | database => exact hlooks.elim
  | _ => rfl

lemma notes_eq_nil (hp : OnlyLooks p) : (p.run answer s).notes = [] := by
  induction p generalizing s with
  | done a => rfl
  | call c next ih => exact ih _ _ (hp.2 _)
  | note n next => exact hp.elim

end OnlyLooks

end Machine

/-- To find out which database to use is to look, and no more. -/
lemma Settings.onlyLooks_resolve (given : Option String) :
    Machine.OnlyLooks (Settings.resolve given) := by
  have hlocate : Machine.OnlyLooks Settings.locate :=
    ⟨trivial, fun _ => ⟨trivial, fun _ => trivial⟩⟩
  have hload : Machine.OnlyLooks Settings.load := by
    refine hlocate.bind fun place => ⟨trivial, fun text => ?_⟩
    rcases text with _ | text
    · trivial
    · simp only [Program.done_bind]
      cases Settings.read text <;> trivial
  have hloadIfPresent : Machine.OnlyLooks Settings.loadIfPresent := by
    refine hload.bind fun loaded => ?_
    rcases loaded with e | settings
    · refine hlocate.bind fun place => ⟨trivial, fun present => ?_⟩
      cases present <;> trivial
    · trivial
  refine hloadIfPresent.bind fun loaded => ?_
  cases loaded with
  | error e => trivial
  | ok settings => exact ⟨trivial, fun _ => trivial⟩

namespace Command

open Database (Config Ended Pursued Pursues Known Checked TellsCounts IsWordChar andThen)
open Machine (passed lines onDatabase ofDatabase)
open Program (Exchange run exchanges)

/-! ## The steps -/

/-- The steps behind the name, in their order: the database is made sure of at the address for
maintenance, where it is created unless it is there, and then all that is asked is asked of it. -/
def pipeline (config : Config) (name : String) (there : Bool) : List Database.Call :=
  Database.ensuring config.maintenanceUrl name there ++
    [.connect config.url, .migrate, .send .hasHistory, .send .latestVersion, .send .countRows]

/-- What is done once it is sure that the database exists. -/
def finish (config : Config) :
    DatabaseProgram (Except Database.Error (Database.SchemaVersion × Database.RowCounts)) :=
  andThen (Database.openPool config) fun _ =>
    andThen Database.applySchema fun schema =>
      andThen Database.countRows fun counts => .done (.ok (schema, counts))

lemma prepare_eq_andThen (config : Config) :
    prepare config = andThen (Database.ensureExists config) fun _ => finish config := by
  refine congrArg (Program.bind _) (funext fun ensured => ?_)
  rcases ensured with e | created
  · rfl
  refine congrArg (Program.bind _) (funext fun opened => ?_)
  rcases opened with e | ⟨⟩
  · rfl
  refine congrArg (Program.bind _) (funext fun applied => ?_)
  rcases applied with e | schema
  · rfl
  refine congrArg (Program.bind _) (funext fun counted => ?_)
  cases counted <;> rfl

/-- The schema is the one that this library works with, and both it and the numbers of rows are what
the server told. -/
structure Verified (asked : List (Exchange Database.Answer))
    (found : Database.SchemaVersion × Database.RowCounts) : Prop where
  schema : Checked asked found.1
  counts : TellsCounts asked found.2

lemma pursues_finish (config : Config) :
    Pursues (finish config)
      [.connect config.url, .migrate, .send .hasHistory, .send .latestVersion, .send .countRows]
      Verified := by
  refine (Database.pursues_openPool config).andThen fun opened _ _ => ?_
  refine Database.pursues_applySchema.andThen fun applied schema hschema => ?_
  refine Database.pursues_countRows.map _ fun counted counts hcounts => ?_
  have happlied : applied ++ counted ⊆ opened ++ (applied ++ counted) :=
    List.subset_append_right opened _
  exact ⟨hschema.mono (List.Subset.trans (List.subset_append_left applied counted) happlied),
    hcounts.mono (List.Subset.trans (List.subset_append_right applied counted) happlied)⟩

section

variable {σ : Type} {config : Config} {name : String}

/-- With a plain name the steps are taken in their order. -/
lemma ended_prepare (answer : (c : Database.Call) → σ → Database.Answer c × σ) (s : σ)
    (h : config.Admits name) :
    ∃ there, Known name there ((prepare config).exchanges answer s) ∧
      Ended (pipeline config name there) Verified ((prepare config).exchanges answer s)
        ((prepare config).run answer s).value := by
  obtain ⟨there, hknown, hended⟩ := (Database.ensured answer h s).ended
  refine ⟨there, ?_, ?_⟩
  · intro found hfound
    rw [prepare_eq_andThen] at hfound
    rcases Database.mem_exchanges_andThen hfound with hfront | ⟨_, s', hrest⟩
    · exact hknown found hfront
    · -- Once the database is sure to exist it is not asked for again.
      have hcall := (pursues_finish config σ answer s').isPrefix.subset
        (List.mem_map_of_mem (f := Sigma.fst) hrest)
      simp at hcall
  · rw [prepare_eq_andThen]
    refine hended.andThen fun front _ _ => (pursues_finish config).imp fun asked found h => ?_
    have hmore : asked ⊆ front ++ asked := List.subset_append_right front asked
    exact ⟨h.schema.mono hmore, h.counts.mono hmore⟩

end

/-! ## What is said -/

/-- What is said first. -/
def greeting : String := "Initializing paylater database..."

/-- What is said of a database that is ready. -/
def announcement (schema : Database.SchemaVersion) (counts : Database.RowCounts) : List String :=
  ["Database ready (schema version " ++ toString schema.version ++ ").",
    "  payment_plans: " ++ toString counts.plans ++ " rows",
    "  payment_installments: " ++ toString counts.installments ++ " rows",
    "paylater db-init complete."]

/-- What is said at the end, and whether the command fails. -/
def announce : Except Database.Error (Database.SchemaVersion × Database.RowCounts) →
    MachineProgram (Except CommandError Unit)
  | .error e => .done (.error (.database e))
  | .ok (schema, counts) =>
    (announcement schema counts).foldr (fun line rest => .note (.printed line) rest) (.done (.ok ()))

lemma setUp_eq_note (config : Config) :
    setUp config = .note (.printed greeting) ((ofDatabase (prepare config)).bind announce) := by
  refine congrArg (Program.note _) (congrArg (Program.bind (ofDatabase _)) (funext fun made => ?_))
  cases made <;> rfl

/-- What is asked of a server to set up a database of this name, what that ends with, and what is
printed; whether the database is there, and whether all steps succeed, is for the server to tell. -/
structure SetsUp (config : Config) (name : String) (there whole : Bool)
    (asked : List (Exchange Database.Answer)) (value : Except CommandError Unit)
    (printed : List String) : Prop where
  known : Known name there asked
  /-- The steps are taken in their order, up to the first that fails. -/
  steps : Pursued (pipeline config name there) asked whole
  ok_iff : value = .ok () ↔ whole = true
  failed : whole = false → ∃ e, value = .error (.database e)
  /-- What is said of a database that is ready is what the server told. -/
  ready : whole = true → ∃ schema counts, Checked asked schema ∧ TellsCounts asked counts ∧
    printed = greeting :: announcement schema counts
  silent : whole = false → printed = [greeting]

section

variable {σ : Type} (answer : (c : Machine.Call) → σ → Machine.Answer c × σ) (s : σ)
variable {config : Config} {name : String}

lemma passed_setUp (config : Config) :
    passed ((setUp config).exchanges answer s) =
      (prepare config).exchanges (onDatabase answer) s := by
  rw [setUp_eq_note, exchanges, Machine.passed_bind, Machine.exchanges_ofDatabase]
  rcases ((ofDatabase (prepare config)).run answer s).value with e | ⟨schema, counts⟩ <;>
    exact List.append_nil _

/-- What fails says no more than the greeting. -/
lemma run_setUp_of_error {e : Database.Error}
    (h : ((prepare config).run (onDatabase answer) s).value = .error e) :
    ((setUp config).run answer s).value = .error (.database e) ∧
      lines ((setUp config).run answer s).notes = [greeting] := by
  rw [setUp_eq_note, Program.run, Program.run_bind, Machine.run_ofDatabase]
  simp only [h, announce, Program.run, List.append_nil]
  exact ⟨trivial, congrArg (List.cons greeting) (Machine.lines_map_logged _)⟩

lemma run_setUp_of_ok {schema : Database.SchemaVersion} {counts : Database.RowCounts}
    (h : ((prepare config).run (onDatabase answer) s).value = .ok (schema, counts)) :
    ((setUp config).run answer s).value = .ok () ∧
      lines ((setUp config).run answer s).notes = greeting :: announcement schema counts := by
  rw [setUp_eq_note, Program.run]
  have hvalue : ((ofDatabase (prepare config)).run answer s).value = .ok (schema, counts) := by
    rw [Machine.run_ofDatabase, h]
  refine ⟨?_, congrArg (List.cons greeting) ?_⟩
  · rw [Program.run_bind]
    dsimp only
    rw [hvalue]
    rfl
  · have hquiet : lines ((ofDatabase (prepare config)).run answer s).notes = [] := by
      rw [Machine.run_ofDatabase]
      exact Machine.lines_map_logged _
    have hlines : lines (((ofDatabase (prepare config)).bind announce).run answer s).notes = _ :=
      Machine.lines_bind _ announce s
    rw [hvalue, hquiet] at hlines
    exact hlines

lemma setsUp (h : config.Admits name) :
    ∃ there whole, SetsUp config name there whole (passed ((setUp config).exchanges answer s))
      ((setUp config).run answer s).value (lines ((setUp config).run answer s).notes) := by
  rw [passed_setUp]
  obtain ⟨there, hknown, ⟨⟨schema, counts⟩, hvalue, hfound, hasked⟩ | ⟨e, hvalue, hasked⟩⟩ :=
    ended_prepare (onDatabase answer) s h
  · obtain ⟨hok, hlines⟩ := run_setUp_of_ok answer s hvalue
    rw [hok, hlines]
    exact ⟨there, true,
      { known := hknown
        steps := hasked
        ok_iff := iff_of_true rfl rfl
        failed := nofun
        ready := fun _ => ⟨schema, counts, hfound.schema, hfound.counts, rfl⟩
        silent := nofun }⟩
  · obtain ⟨herror, hlines⟩ := run_setUp_of_error answer s hvalue
    rw [herror, hlines]
    exact ⟨there, false,
      { known := hknown
        steps := hasked
        ok_iff := iff_of_false nofun nofun
        failed := fun _ => ⟨e, rfl⟩
        ready := nofun
        silent := fun _ => rfl }⟩

/-- Where no name is found, or one that might be more than a name, nothing is asked. -/
lemma setUp_of_done {e : Database.Error} (h : Database.ensureExists config = .done (.error e)) :
    passed ((setUp config).exchanges answer s) = [] ∧
      ((setUp config).run answer s).value = .error (.database e) ∧
      lines ((setUp config).run answer s).notes = [greeting] := by
  have hprepare : prepare config = .done (.error e) := by
    rw [prepare_eq_andThen, h]
    rfl
  have hvalue : ((prepare config).run (onDatabase answer) s).value = .error e := by
    rw [hprepare]
    rfl
  refine ⟨?_, run_setUp_of_error answer s hvalue⟩
  rw [passed_setUp, hprepare]
  rfl

/-! ## The command -/

/-- How the command goes on with the database to use. -/
def onConfig : Except Settings.Error Config → MachineProgram (Except CommandError Unit)
  | .error e => .done (.error (.settings e))
  | .ok config => setUp config

lemma run_initDatabase (url : Option String) :
    Command.run url .initDatabase = (Settings.resolve url).bind onConfig := by
  refine congrArg (Program.bind _) (funext fun resolved => ?_)
  cases resolved <;> rfl

/-- A call that changes nothing on the machine, or one to the database server. -/
def SparesMachine (c : Machine.Call) : Prop := c.Looks ∨ ∃ d, c = .database d

lemma sparesMachine_initDatabase (url : Option String) :
    (Command.run url .initDatabase).Only SparesMachine := by
  rw [run_initDatabase]
  refine ((Settings.onlyLooks_resolve url).only.imp fun _ => .inl).bind fun resolved => ?_
  rcases resolved with e | config
  · trivial
  rw [onConfig, setUp_eq_note]
  have hprepare : (ofDatabase (prepare config)).Only SparesMachine :=
    ((Program.only_true _).mapNotes _).refine fun c _ => ⟨.inr ⟨c, rfl⟩, fun _ => trivial⟩
  refine hprepare.bind fun made => ?_
  cases made <;> trivial

/-- **A database is never said to be ready unless it was verified.**  Whatever the machine and the
server answer, the settings are only looked at, and the server is asked nothing unless they give a
database with a plain name.  Then the steps are taken in their order, and the first that fails is
the last: it is an error, and nothing is said of the database.  The command succeeds exactly if no
step fails, among them that the newest schema is the one that this library works with, and the
version and the numbers that are printed then are those that the server told. -/
theorem announces_verified_only (url : Option String) :
    let program := Command.run url .initDatabase
    let asked := passed (program.exchanges answer s)
    let value := (program.run answer s).value
    let printed := lines (program.run answer s).notes
    (∀ x ∈ program.exchanges answer s, SparesMachine x.1) ∧
    (∀ e, ((Settings.resolve url).run answer s).value = .error e →
      asked = [] ∧ value = .error (.settings e) ∧ printed = []) ∧
    ∀ config, ((Settings.resolve url).run answer s).value = .ok config →
      (config.databaseName? = none →
        asked = [] ∧ value = .error (.database .noName) ∧ printed = [greeting]) ∧
      (∀ name, config.databaseName? = some name → (∃ c ∈ name.toList, ¬ IsWordChar c) →
        asked = [] ∧ value = .error (.database (.badName name)) ∧ printed = [greeting]) ∧
      ∀ name, config.databaseName? = some name → (∀ c ∈ name.toList, IsWordChar c) →
        ∃ there whole, SetsUp config name there whole asked value printed := by
  intro program asked value printed
  have hquiet := Settings.onlyLooks_resolve url
  have hasked : asked = passed ((onConfig ((Settings.resolve url).run answer s).value).exchanges
      answer ((Settings.resolve url).run answer s).state) := by
    simp only [asked, program, run_initDatabase]
    rw [Machine.passed_bind, hquiet.passed_eq_nil, List.nil_append]
  have hvalue : value = ((onConfig ((Settings.resolve url).run answer s).value).run
      answer ((Settings.resolve url).run answer s).state).value := by
    simp only [value, program, run_initDatabase, Program.run_bind]
  have hprinted : printed = lines ((onConfig ((Settings.resolve url).run answer s).value).run
      answer ((Settings.resolve url).run answer s).state).notes := by
    simp only [printed, program, run_initDatabase]
    rw [Machine.lines_bind, hquiet.notes_eq_nil]
    rfl
  refine ⟨(sparesMachine_initDatabase url).exchanges answer s, fun e he => ?_,
    fun config hconfig => ?_⟩
  · rw [hasked, hvalue, hprinted, he]
    exact ⟨rfl, rfl, rfl⟩
  · rw [hasked, hvalue, hprinted, hconfig]
    exact ⟨fun hunnamed => setUp_of_done answer _ (Database.ensureExists_of_unnamed hunnamed),
      fun name hnamed hodd => setUp_of_done answer _ (Database.ensureExists_of_odd hnamed hodd),
      fun name hnamed hplain => setsUp answer _ ⟨hnamed, hplain⟩⟩

end

end Command

end PaymentPlans
