/-
# When a command on plans connects

A command reads its words and its file before it connects, so that what cannot be read never
opens a connection.  The amounts of a plan are read later, by the service, and the service stands
behind the connection: a file with a bad amount is refused, but only after one was opened.
-/
import PaymentPlans.Invocation.Run
import PaymentPlans.Proofs.BadAmount

namespace PaymentPlans

namespace Program

variable {Call Call' : Type} {Answer : Call → Type} {Answer' : Call' → Type} {Note α σ : Type}

/-- A program makes only calls of some kind, whatever it is answered. -/
def Only (P : Call → Prop) : Program Call Answer Note α → Prop
  | done _ => True
  | call c next => P c ∧ ∀ a, (next a).Only P
  | note _ next => next.Only P

lemma only_true (p : Program Call Answer Note α) : p.Only fun _ => True := by
  induction p with
  | done a => trivial
  | call c next ih => exact ⟨trivial, ih⟩
  | note n next ih => exact ih

lemma Only.imp {P Q : Call → Prop} {p : Program Call Answer Note α} (hp : p.Only P)
    (h : ∀ c, P c → Q c) : p.Only Q := by
  induction p with
  | done a => trivial
  | call c next ih => exact ⟨h c hp.1, fun a => ih a (hp.2 a)⟩
  | note n next ih => exact ih hp

lemma Only.bind {β : Type} {P : Call → Prop} {p : Program Call Answer Note α}
    {f : α → Program Call Answer Note β} (hp : p.Only P) (hf : ∀ a, (f a).Only P) :
    (p.bind f).Only P := by
  induction p with
  | done a => exact hf a
  | call c next ih => exact ⟨hp.1, fun a => ih a (hp.2 a)⟩
  | note n next ih => exact ih hp

lemma Only.mapNotes {Note' : Type} {P : Call → Prop} {p : Program Call Answer Note α}
    (hp : p.Only P) (f : Note → Note') : (p.mapNotes f).Only P := by
  induction p with
  | done a => trivial
  | call c next ih => exact ⟨hp.1, fun a => ih a (hp.2 a)⟩
  | note n next ih => exact ih hp

lemma Only.refine {P : Call → Prop} {Q : Call' → Prop} {p : Program Call Answer Note α}
    {step : (c : Call) → Program Call' Answer' Note (Answer c)} (hp : p.Only P)
    (hstep : ∀ c, P c → (step c).Only Q) : (p.refine step).Only Q := by
  induction p with
  | done a => trivial
  | call c next ih => exact (hstep c hp.1).bind fun a => ih a (hp.2 a)
  | note n next ih => exact ih hp

lemma Only.exchanges {P : Call → Prop} {p : Program Call Answer Note α} (hp : p.Only P)
    (answer : (c : Call) → σ → Answer c × σ) (s : σ) : ∀ x ∈ p.exchanges answer s, P x.1 := by
  induction p generalizing s with
  | done a => exact fun x hx => absurd hx List.not_mem_nil
  | call c next ih =>
    intro x hx
    rcases List.mem_cons.1 hx with rfl | hx
    · exact hp.1
    · exact ih _ (hp.2 _) _ x hx
  | note n next ih => exact ih hp s

end Program

namespace PlanCommand

open Machine (Call Answer)
open Program (exchanges run)

/-! ## Connections -/

/-- Whether a call opens a connection. -/
def connects : Call → Bool
  | .database (.connect _) => true
  | _ => false

section

variable {σ α : Type} (answer : (c : Call) → σ → Answer c × σ)

/-- How many connections a program opens, or tries to open. -/
def connections (p : MachineProgram α) (s : σ) : Nat :=
  (p.exchanges answer s).countP fun x => connects x.1

lemma connections_bind {β : Type} (p : MachineProgram α) (f : α → MachineProgram β) (s : σ) :
    connections answer (p.bind f) s = connections answer p s +
      connections answer (f (p.run answer s).value) (p.run answer s).state := by
  rw [connections, Program.exchanges_bind, List.countP_append]
  rfl

/-- To ask a repository of tables for something is to send statements, not to connect. -/
lemma connections_onTables (p : RepositoryProgram α) (s : σ) :
    connections answer (Machine.ofDatabase (onTables p)) s = 0 := by
  have hstatements : (onTables p).Only fun c => ∀ url, c ≠ .connect url :=
    (Program.only_true _).refine fun q _ => ⟨fun url => nofun, fun _ => trivial⟩
  have hcalls : (Machine.ofDatabase (onTables p)).Only fun c => connects c = false := by
    refine (hstatements.mapNotes _).refine fun c hc => ⟨?_, fun _ => trivial⟩
    cases c with
    | connect url => exact absurd rfl (hc url)
    | send q => rfl
    | migrate => rfl
  refine List.countP_eq_zero.2 fun x hx => ?_
  rw [hcalls.exchanges answer s x hx]
  exact Bool.false_ne_true

/-- How a command goes on when it knows whether it is connected. -/
def onConnection (p : RepositoryProgram (Except ServiceError α)) (json : α → Json.Value) :
    Except CommandError Unit → MachineProgram (Except CommandError Unit)
  | .error e => .done (.error e)
  | .ok () => (Machine.ofDatabase (onTables p)).bind fun shown => match shown with
    | .error e => .done (.error (.service e))
    | .ok shown => .note (.printed (json shown).text) (.done (.ok ()))

lemma serve_eq_bind (connect : MachineProgram (Except CommandError Unit))
    (p : RepositoryProgram (Except ServiceError α)) (json : α → Json.Value) :
    serve connect p json = connect.bind (onConnection p json) := by
  refine congrArg connect.bind (funext fun connected => ?_)
  rcases connected with e | ⟨⟩
  · rfl
  · refine congrArg (Program.bind _) (funext fun shown => ?_)
    cases shown <;> rfl

/-- The service is asked over the connection that was opened before, and over no other. -/
lemma connections_serve (connect : MachineProgram (Except CommandError Unit))
    (p : RepositoryProgram (Except ServiceError α)) (json : α → Json.Value) (s : σ) :
    connections answer (serve connect p json) s = connections answer connect s := by
  rw [serve_eq_bind, connections_bind, Nat.add_eq_left]
  rcases (connect.run answer s).value with e | ⟨⟩
  · rfl
  · rw [onConnection, connections_bind, connections_onTables, Nat.zero_add]
    rcases ((Machine.ofDatabase (onTables p)).run answer _).value with e | shown <;> rfl

/-- What the service refuses at once fails, whether a connection was opened or not. -/
lemma serve_done_error (connect : MachineProgram (Except CommandError Unit)) (e : ServiceError)
    (json : α → Json.Value) (s : σ) :
    ∃ e', ((serve connect (.done (.error e)) json).run answer s).value = .error e' := by
  rw [serve_eq_bind, Program.run_bind]
  dsimp only
  rcases (connect.run answer s).value with e' | ⟨⟩
  · exact ⟨e', rfl⟩
  · exact ⟨.service e, rfl⟩

end

/-! ## Bad commands -/

/-- What is given with a command cannot be read, where `text` is what its file holds, if there is
such a file: there is none, or it is no plan file, or a user or a plan is no identifier. -/
def Unreadable : PlanCommand → (text : Option String) → Prop
  | create _, none => True
  | create _, some text => ¬ (PlanFile.read text).isOk
  | list user, _ => ¬ (Identifier.ofText user).isOk
  | complete planId user, _ => ¬ (Identifier.ofText planId).isOk ∨ ¬ (Identifier.ofText user).isOk

/-- The file of a command can be read, but not all of its amounts. -/
def HasBadAmount : PlanCommand → (text : Option String) → Prop
  | create _, some text => ∃ request, PlanFile.read text = .ok request ∧
      ∃ amount ∈ request.amounts, ¬ (Amount.ofText amount).isOk
  | _, _ => False

/-- What is given with a command is bad. -/
def IsBad (c : PlanCommand) (text : Option String) : Prop := Unreadable c text ∨ HasBadAmount c text

/-- The file that a command reads holds this text; other commands read no file. -/
def Finds {σ : Type} (answer : (c : Call) → σ → Answer c × σ) (s : σ) (text : Option String) :
    PlanCommand → Prop
  | create file => (answer (.readFile file) s).1 = text
  | list _ | complete _ _ => True

lemma not_unreadable_of_hasBadAmount {c : PlanCommand} {text : Option String}
    (h : HasBadAmount c text) : ¬ Unreadable c text := by
  cases c with
  | create file =>
    cases text with
    | none => exact h.elim
    | some text =>
      obtain ⟨request, hread, -⟩ := h
      simp [Unreadable, hread, Except.isOk, Except.toBool]
  | list | complete => exact h.elim

/-! ## What a command does -/

section

variable {σ : Type} {answer : (c : Call) → σ → Answer c × σ}
variable (connect : MachineProgram (Except CommandError Unit))

/-- A program goes on as another one does from some state on, with no connection before. -/
structure GoesOn (answer : (c : Call) → σ → Answer c × σ)
    (p : MachineProgram (Except CommandError Unit)) (s : σ)
    (rest : MachineProgram (Except CommandError Unit)) (s' : σ) : Prop where
  value : (p.run answer s).value = (rest.run answer s').value
  connections : connections answer p s = connections answer rest s'

/-- How a command goes on once what is given with it was looked at. -/
inductive Went (c : PlanCommand) (text : Option String) (answer : (c : Call) → σ → Answer c × σ)
    (s : σ) : Prop where
  /-- It cannot be read, and the command fails. -/
  | refused (unread : Unreadable c text) (e : CommandError) (s' : σ)
      (goes : GoesOn answer (c.run connect) s (.done (.error e)) s')
  /-- The service is asked for something, which it refuses at once if an amount is bad. -/
  | served (read : ¬ Unreadable c text) {α : Type} (p : RepositoryProgram (Except ServiceError α))
      (json : α → Json.Value) (s' : σ)
      (goes : GoesOn answer (c.run connect) s (serve connect p json) s')
      (checked : HasBadAmount c text → ∃ e, p = .done (.error e))

/-- How a creation goes on with its file. -/
def createFrom (file : String) : Option String → MachineProgram (Except CommandError Unit)
  | none => .done (.error (.planFileNotRead file))
  | some text => match PlanFile.read text with
    | .error e => .done (.error (.badPlanFile file e))
    | .ok request => serve connect (Service.create request) PlanView.json

lemma run_create (file : String) :
    (create file).run connect = .call (.readFile file) (createFrom connect file) := by
  refine congrArg (Program.call _) (funext fun text => ?_)
  rcases text with _ | text
  · rfl
  · simp only [Program.done_bind, createFrom]
    cases PlanFile.read text <;> rfl

lemma goesOn_create (file : String) (s : σ) :
    GoesOn answer ((create file).run connect) s
      (createFrom connect file (answer (.readFile file) s).1) (answer (.readFile file) s).2 := by
  rw [run_create]
  exact ⟨rfl, List.countP_cons_of_neg Bool.false_ne_true⟩

lemma went_create (file : String) (s : σ) :
    Went connect (create file) (answer (.readFile file) s).1 answer s := by
  have hgoes : GoesOn answer ((create file).run connect) s
      (createFrom connect file (answer (.readFile file) s).1) (answer (.readFile file) s).2 :=
    goesOn_create connect file s
  rcases htext : (answer (.readFile file) s).1 with _ | text
  · rw [htext] at hgoes
    exact .refused trivial _ _ hgoes
  · rw [htext, createFrom] at hgoes
    rcases hread : PlanFile.read text with e | request
    · rw [hread] at hgoes
      refine .refused ?_ _ _ hgoes
      rw [Unreadable, hread]
      exact nofun
    · rw [hread] at hgoes
      refine .served ?_ _ _ _ hgoes ?_
      · rw [Unreadable, hread]
        exact fun hrejected => hrejected rfl
      · rintro ⟨request', hread', hbad⟩
        obtain rfl := Except.ok.inj (hread.symm.trans hread')
        obtain ⟨amount, fault, hfirst⟩ := Service.exists_firstBad_iff.2 hbad
        exact ⟨_, Service.create_of_firstBad hfirst⟩

lemma went_list (user : String) (text : Option String) (s : σ) :
    Went connect (list user) text answer s := by
  rcases huser : Identifier.ofText user with fault | userId
  · have hrun : (list user).run connect =
        .done (.error (.badUser (.badIdentifier user fault))) := by
      simp only [PlanCommand.run, readIdentifier, huser]
      rfl
    refine .refused ?_ _ s (by rw [hrun]; exact ⟨rfl, rfl⟩)
    rw [Unreadable, huser]
    exact nofun
  · have hrun : (list user).run connect =
        serve connect (Service.list userId) fun views => .list (views.map PlanView.json) := by
      simp only [PlanCommand.run, readIdentifier, huser]
      rfl
    refine .served ?_ _ _ s (by rw [hrun]; exact ⟨rfl, rfl⟩) nofun
    rw [Unreadable, huser]
    exact fun hrejected => hrejected rfl

lemma went_complete (planId user : String) (text : Option String) (s : σ) :
    Went connect (complete planId user) text answer s := by
  rcases hplan : Identifier.ofText planId with fault | plan
  · have hrun : (complete planId user).run connect =
        .done (.error (.badPlanId (.badIdentifier planId fault))) := by
      simp only [PlanCommand.run, readIdentifier, hplan]
      rfl
    refine .refused (Or.inl ?_) _ s (by rw [hrun]; exact ⟨rfl, rfl⟩)
    rw [hplan]
    exact nofun
  rcases huser : Identifier.ofText user with fault | userId
  · have hrun : (complete planId user).run connect =
        .done (.error (.badUser (.badIdentifier user fault))) := by
      simp only [PlanCommand.run, readIdentifier, hplan, huser]
      rfl
    refine .refused (Or.inr ?_) _ s (by rw [hrun]; exact ⟨rfl, rfl⟩)
    rw [huser]
    exact nofun
  · have hrun : (complete planId user).run connect =
        serve connect (Service.complete plan ⟨userId⟩) PlanView.json := by
      simp only [PlanCommand.run, readIdentifier, hplan, huser]
      rfl
    refine .served ?_ _ _ s (by rw [hrun]; exact ⟨rfl, rfl⟩) nofun
    rw [Unreadable, hplan, huser]
    rintro (hrejected | hrejected) <;> exact hrejected rfl

lemma went {c : PlanCommand} {text : Option String} {s : σ} (h : Finds answer s text c) :
    Went connect c text answer s := by
  cases c with
  | create file =>
    obtain rfl : _ = text := h
    exact went_create connect file s
  | list user => exact went_list connect user text s
  | complete planId user => exact went_complete connect planId user text s

end

/-! ## Which bad commands connect -/

/-- A way to connect that opens one connection, whatever else it does. -/
def ConnectsOnce {σ : Type} (answer : (c : Call) → σ → Answer c × σ)
    (connect : MachineProgram (Except CommandError Unit)) : Prop :=
  ∀ s, connections answer connect s = 1

/-- To connect to the database of a configuration is to connect once. -/
lemma connectsOnce_connect {σ : Type} (answer : (c : Call) → σ → Answer c × σ)
    (config : Database.Config) : ConnectsOnce answer (Command.connect config) := by
  intro s
  have hconnect : Command.connect config = .call (.database (.connect config.url)) fun opened =>
      .done (if opened then .ok () else .error (.database (.notReached config.url))) := by
    refine congrArg (Program.call _) (funext fun opened => ?_)
    cases opened <;> rfl
  rw [hconnect]
  rfl

/-- Bad commands are kept from the database, as far as a command with this text in its file is
concerned: whatever the machine answers and however it connects, the command fails without a
connection if it is bad, and connects once if it is not. -/
structure SparesDatabase (c : PlanCommand) (text : Option String) : Prop where
  refused : IsBad c text → ∀ (connect : MachineProgram (Except CommandError Unit)) (σ : Type)
    (answer : (c : Call) → σ → Answer c × σ) (s : σ), Finds answer s text c →
      (∃ e, ((c.run connect).run answer s).value = .error e) ∧
        connections answer (c.run connect) s = 0
  served : ¬ IsBad c text → ∀ (connect : MachineProgram (Except CommandError Unit)) (σ : Type)
    (answer : (c : Call) → σ → Answer c × σ) (s : σ), Finds answer s text c →
      ConnectsOnce answer connect → connections answer (c.run connect) s = 1

section

variable {connect : MachineProgram (Except CommandError Unit)} {σ : Type}
variable {answer : (c : Call) → σ → Answer c × σ} {s : σ} {c : PlanCommand} {text : Option String}

/-- A bad command fails, whether it connects before or not. -/
lemma exists_error_of_isBad (hfinds : Finds answer s text c) (hbad : IsBad c text) :
    ∃ e, ((c.run connect).run answer s).value = .error e := by
  cases went connect hfinds with
  | refused unread e s' goes => exact ⟨e, goes.value⟩
  | served read p json s' goes checked =>
    obtain ⟨e, rfl⟩ := checked (hbad.resolve_left read)
    rw [goes.value]
    exact serve_done_error answer connect e json s'

/-- What cannot be read never connects. -/
lemma connections_of_unreadable (hfinds : Finds answer s text c) (hunread : Unreadable c text) :
    connections answer (c.run connect) s = 0 := by
  cases went connect hfinds with
  | refused unread e s' goes => exact goes.connections
  | served read => exact absurd hunread read

/-- What can be read connects once. -/
lemma connections_of_readable (hfinds : Finds answer s text c) (hread : ¬ Unreadable c text)
    (honce : ConnectsOnce answer connect) : connections answer (c.run connect) s = 1 := by
  cases went connect hfinds with
  | refused unread => exact absurd unread hread
  | served read p json s' goes checked =>
    rw [goes.connections, connections_serve]
    exact honce s'

end

/-- A machine with one file, and no way to reach anything else. -/
def onlyFile (text : Option String) : (c : Call) → Unit → Answer c × Unit
  | .environment _, s => (none, s)
  | .readFile _, s => (text, s)
  | .has _, s => (false, s)
  | .makeDirectory _, s => (false, s)
  | .writeFile _ _, s => (false, s)
  | .makePrivate _, s => (false, s)
  | .database (.connect _), s => (false, s)
  | .database (.send _), s => (.error ⟨"not connected"⟩, s)
  | .database .migrate, s => (false, s)

lemma finds_onlyFile (c : PlanCommand) (text : Option String) :
    Finds (onlyFile text) () text c := by
  cases c with
  | create => rfl
  | list | complete => trivial

/-- A command with a bad amount is not kept from the database. -/
lemma not_sparesDatabase_of_hasBadAmount {c : PlanCommand} {text : Option String}
    (hbad : HasBadAmount c text) : ¬ SparesDatabase c text := by
  intro hspares
  have hfinds := finds_onlyFile c text
  have hnone := (hspares.refused (Or.inr hbad) (Command.connect { url := "" }) Unit _ () hfinds).2
  have hone := connections_of_readable hfinds (not_unreadable_of_hasBadAmount hbad)
    (connectsOnce_connect _ { url := "" })
  exact nomatch hnone.symm.trans hone

/-- **Bad commands are kept from the database exactly if they are not bad for an amount.**  What
cannot be read, be it a file, a user or a plan, never opens a connection, and what can be read
opens one; but an amount that cannot be read is refused only behind that connection. -/
theorem sparesDatabase_iff (c : PlanCommand) (text : Option String) :
    (SparesDatabase c text ↔ ¬ HasBadAmount c text) ∧
      ∀ (connect : MachineProgram (Except CommandError Unit)) (σ : Type)
        (answer : (c : Call) → σ → Answer c × σ) (s : σ), Finds answer s text c →
          (Unreadable c text → connections answer (c.run connect) s = 0) ∧
          (¬ Unreadable c text → ConnectsOnce answer connect →
            connections answer (c.run connect) s = 1) ∧
          (IsBad c text → ∃ e, ((c.run connect).run answer s).value = .error e) := by
  refine ⟨⟨fun hspares hbad => not_sparesDatabase_of_hasBadAmount hbad hspares,
    fun hfine => ⟨?_, ?_⟩⟩, ?_⟩
  · intro hbad connect σ answer s hfinds
    exact ⟨exists_error_of_isBad hfinds hbad,
      connections_of_unreadable hfinds (hbad.resolve_right hfine)⟩
  · intro hgood connect σ answer s hfinds honce
    exact connections_of_readable hfinds (fun hunread => hgood (Or.inl hunread)) honce
  · intro connect σ answer s hfinds
    exact ⟨connections_of_unreadable hfinds, connections_of_readable hfinds,
      exists_error_of_isBad hfinds⟩

/-- A completion by a user, with blanks around the plan. -/
def completionBy (user : String) : PlanCommand :=
  complete " a1a2a3a4-b1b2-c1c2-d1d2-d3d4d5d6d7d8\n" user

theorem sparesDatabase_iff_completionBy :
    let connect := Command.connect { url := "postgresql://localhost/plans" }
    let nobody := completionBy "nobody"
    let somebody := completionBy (Identifier.sequence 1).text
    (Unreadable nobody none ∧ connections (onlyFile none) (nobody.run connect) () = 0) ∧
      ¬ Unreadable somebody none ∧ connections (onlyFile none) (somebody.run connect) () = 1 := by
  intro connect nobody somebody
  have hunread : Unreadable nobody none := Or.inr (by decide +kernel)
  have hread : ¬ Unreadable somebody none := by
    rintro (hplan | huser)
    · exact hplan (by decide +kernel)
    · exact huser (by decide +kernel)
  have hnobody := (sparesDatabase_iff nobody none).2 connect Unit (onlyFile none) () trivial
  have hsomebody := (sparesDatabase_iff somebody none).2 connect Unit (onlyFile none) () trivial
  exact ⟨⟨hunread, hnobody.1 hunread⟩, hread, hsomebody.2.1 hread (connectsOnce_connect _ _)⟩

/-- A plan file whose whole amount is no number. -/
def wordyPlan : String :=
  "[plan]\nuser_id = \"67e55044-10b1-426f-9247-bb680e5fe0c8\"\ncurrency = \"usdc\"\n" ++
    "total_amount = \"not an amount\"\n"

/-- A connection is opened for a plan whose whole amount is no number. -/
theorem not_sparesDatabase_wordyPlan :
    IsBad (create "plan.toml") (some wordyPlan) ∧
      connections (onlyFile (some wordyPlan))
        ((create "plan.toml").run (Command.connect { url := "postgresql://localhost/plans" })) () =
          1 ∧
      ¬ SparesDatabase (create "plan.toml") (some wordyPlan) := by
  have hbad : HasBadAmount (create "plan.toml") (some wordyPlan) := by
    have hamounts : (PlanFile.read wordyPlan).map PlanRequest.amounts = .ok ["not an amount"] := by
      decide +kernel
    rcases hread : PlanFile.read wordyPlan with e | request
    · rw [hread] at hamounts
      exact nomatch hamounts
    · rw [hread] at hamounts
      refine ⟨request, hread, "not an amount", ?_, by decide +kernel⟩
      rw [Except.ok.inj hamounts]
      exact List.mem_singleton_self _
  exact ⟨Or.inr hbad, connections_of_readable (finds_onlyFile _ _)
    (not_unreadable_of_hasBadAmount hbad) (connectsOnce_connect _ _),
    not_sparesDatabase_of_hasBadAmount hbad⟩

end PlanCommand

end PaymentPlans
