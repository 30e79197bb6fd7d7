/-
# Which plans a store knows

A store in memory has no register of plans.  It takes a plan for known if there is a schedule
under its identifier, and a schedule is there once a plan was stored or once an installment was:
an installment is never asked for its plan.  So the store knows exactly what it should as long
as no installment came without its plan, and such an installment is not refused.
-/
import PaymentPlans.Proofs.Memory.Effect

namespace PaymentPlans

open Program (Exchange)
open Repository (Call Answer)

namespace Repository

/-- The program that makes calls one after the other, whatever they are answered by. -/
def callAll : List Call → RepositoryProgram Unit
  | [] => .done ()
  | c :: rest => .call c fun _ => callAll rest

/-- A plan of an identifier was stored. -/
def StoresPlan (id : Identifier) : Exchange Answer → Prop
  | ⟨.createPlan _, .ok plan⟩ => plan.id = id
  | _ => False

/-- An installment of a plan of an identifier was stored. -/
def StoresInstallment (id : Identifier) : Exchange Answer → Prop
  | ⟨.createInstallment _, .ok i⟩ => i.planId = id
  | _ => False

/-- A plan of an identifier was created at some time. -/
def HasPlan (history : List (Exchange Answer)) (id : Identifier) : Prop :=
  ∃ x ∈ history, StoresPlan id x

/-- An installment of a plan of an identifier was created at some time. -/
def HasInstallment (history : List (Exchange Answer)) (id : Identifier) : Prop :=
  ∃ x ∈ history, StoresInstallment id x

end Repository

open Repository

namespace Memory

variable {sources : Sources} {s : State} {id : Identifier}

/-! ## Schedules -/

/-- A call opens the schedule of what it stores, and no other one. -/
lemma mem_schedules_answer_iff (c : Call) :
    id ∈ (State.answer sources c s).2.schedules ↔ id ∈ s.schedules ∨
      StoresPlan id ⟨c, (State.answer sources c s).1⟩ ∨
        StoresInstallment id ⟨c, (State.answer sources c s).1⟩ := by
  rcases hanswer : State.answer sources c s with ⟨a, s'⟩
  -- Schedules are opened in two cases only.
  cases effect_of_answer_eq hanswer with
  | planStored => simp [StoresPlan, StoresInstallment, eq_comm]
  | installmentStored read drawn fulfils =>
    have hplanId := congrArg Installment.planId fulfils
    simp [StoresPlan, StoresInstallment, mem_opened_iff, eq_comm, hplanId]
  | _ => simp [StoresPlan, StoresInstallment]

/-- There are the schedules of what was stored, and no other ones. -/
lemma mem_schedules_run_iff {α : Type} (p : RepositoryProgram α) :
    id ∈ (p.run (State.answer sources) s).state.schedules ↔ id ∈ s.schedules ∨
      ∃ x ∈ p.exchanges (State.answer sources) s, StoresPlan id x ∨ StoresInstallment id x := by
  induction p generalizing s with
  | done a => simp [Program.run, Program.exchanges]
  | call c next ih =>
    simp only [Program.run, Program.exchanges, ih, mem_schedules_answer_iff, List.mem_cons,
      exists_eq_or_imp, or_assoc]
  | note n next ih => exact ih

/-! ## What is known -/

lemma listInstallments_isOk_iff :
    (∃ installments, (State.answer sources (.listInstallments id) s).1 = .ok installments) ↔
      id ∈ s.schedules := by
  rw [answer_listInstallments]
  by_cases hopen : id ∈ s.schedules <;> simp [hopen]

/-- A plan with an amount and an identifier is refused exactly if there is a schedule already. -/
lemma createPlan_eq_duplicate_iff {new : NewPlan} {amount : Amount}
    (hamount : Amount.ofText new.amount = .ok amount) (hid : s.chosen sources new.id = .ok id) :
    (State.answer sources (.createPlan new) s).1 = .error (duplicate id) ↔ id ∈ s.schedules := by
  rw [answer_createPlan hamount hid]
  by_cases hopen : id ∈ s.schedules <;> simp [hopen]

/-- Why an installment is refused. -/
def State.Refuses (sources : Sources) (s : State) (new : NewInstallment) : Prop :=
  (∃ fault, Amount.ofText new.amount = .error fault) ∨
    ∃ reason, sources.identifier s.drawn = .error reason

/-- An installment is refused for want of an amount or of an identifier, and for nothing else. -/
lemma createInstallment_isError_iff {new : NewInstallment} :
    (∃ e, (State.answer sources (.createInstallment new) s).1 = .error e) ↔
      s.Refuses sources new := by
  rcases hanswer : State.answer sources (.createInstallment new) s with ⟨a, s'⟩
  cases effect_of_answer_eq hanswer with
  | badAmount stores unread =>
    obtain rfl := Option.some.inj stores
    exact ⟨fun _ => Or.inl ⟨_, unread⟩, fun _ => ⟨_, rfl⟩⟩
  | noIdentifier stores read refused => exact ⟨fun _ => Or.inr ⟨_, refused⟩, fun _ => ⟨_, rfl⟩⟩
  | installmentStored read drawn fulfils =>
    constructor
    · exact fun ⟨e, he⟩ => nomatch he
    · rintro (⟨fault, hfault⟩ | ⟨reason, hreason⟩)
      · exact nomatch read.symm.trans hfault
      · exact nomatch drawn.symm.trans hreason

/-- A call that is refused stores nothing. -/
lemma answer_of_isError {c : Call} {e : RepositoryError} {s' : State}
    (h : State.answer sources c s = (.error e, s')) :
    s'.plans = s.plans ∧ s'.schedules = s.schedules ∧ s'.installments = s.installments := by
  cases effect_of_answer_eq h with
  | _ => exact ⟨rfl, rfl, rfl⟩

/-! ## Installments without their plans -/

section History

variable (sources : Sources) (history : List (Exchange Answer)) (s : State)

/-- A store knows exactly the plans that were created. -/
structure State.KnowsPlans : Prop where
  /-- A schedule is listed exactly under the identifier of a plan that was created. -/
  listed : ∀ id, (∃ is, (State.answer sources (.listInstallments id) s).1 = .ok is) ↔
    HasPlan history id
  /-- All other plans are unknown. -/
  unknown : ∀ id, ¬ HasPlan history id → (State.answer sources (.listInstallments id) s).1 =
    .error (.notFound "payment installment" id)
  /-- The identifier of an unknown plan is not taken. -/
  free : ∀ new id, s.chosen sources new.id = .ok id → ¬ HasPlan history id →
    (State.answer sources (.createPlan new) s).1 ≠ .error (duplicate id)

/-- An installment of an unknown plan is refused and stores nothing, as a foreign key would have
it. -/
def State.RefusesOrphans : Prop :=
  ∀ new, ¬ HasPlan history new.planId →
    ∃ e s', State.answer sources (.createInstallment new) s = (.error e, s') ∧
      s'.plans = s.plans ∧ s'.schedules = s.schedules ∧ s'.installments = s.installments

/-- What a store knows is told by its history. -/
structure State.Registers : Prop where
  /-- A schedule is listed exactly under the identifier of a plan or of the plan of an installment
  that was created. -/
  listed : ∀ id, (∃ is, (State.answer sources (.listInstallments id) s).1 = .ok is) ↔
    HasPlan history id ∨ HasInstallment history id
  /-- All other plans are unknown. -/
  unknown : ∀ id, ¬ (HasPlan history id ∨ HasInstallment history id) →
    (State.answer sources (.listInstallments id) s).1 = .error (.notFound "payment installment" id)
  /-- An installment is refused for want of an amount or of an identifier, and for nothing else;
  then nothing is stored. -/
  refused : ∀ new, (∃ e, (State.answer sources (.createInstallment new) s).1 = .error e) ↔
    s.Refuses sources new
  /-- Identifiers under which schedules are listed are taken, and no other ones. -/
  taken : ∀ new id, s.chosen sources new.id = .ok id → (Amount.ofText new.amount).isOk →
    ((State.answer sources (.createPlan new) s).1 = .error (duplicate id) ↔
      HasPlan history id ∨ HasInstallment history id)

end History

section Known

variable {history : List (Exchange Answer)}
variable (hknown : ∀ id, id ∈ s.schedules ↔ HasPlan history id ∨ HasInstallment history id)
include hknown

lemma registers_of_known : s.Registers sources history where
  listed id := listInstallments_isOk_iff.trans (hknown id)
  unknown id hunknown := by
    rw [answer_listInstallments, if_neg (mt (hknown id).1 hunknown)]
  refused _ := createInstallment_isError_iff
  taken new id hid hread := by
    obtain ⟨amount, hamount⟩ := exists_amount hread
    exact (createPlan_eq_duplicate_iff hamount hid).trans (hknown id)

/-- A store knows exactly the plans that were created if no installment came without its plan. -/
lemma knowsPlans_iff_of_known : s.KnowsPlans sources history ↔
    ∀ id, HasInstallment history id → HasPlan history id := by
  constructor
  · intro h id hinstallment
    exact (h.listed id).1 (listInstallments_isOk_iff.2 ((hknown id).2 (Or.inr hinstallment)))
  · intro hplans
    -- Then schedules are a register of plans after all.
    have hschedules : ∀ id, id ∈ s.schedules ↔ HasPlan history id :=
      fun id => (hknown id).trans (or_iff_left_of_imp (hplans id))
    constructor
    · exact fun id => listInstallments_isOk_iff.trans (hschedules id)
    · intro id hunknown
      rw [answer_listInstallments, if_neg (mt (hschedules id).1 hunknown)]
    · intro new id hid hunknown hduplicate
      cases hamount : Amount.ofText new.amount with
      | error fault =>
        rw [answer_of_badAmount rfl hamount] at hduplicate
        exact nomatch hduplicate
      | ok amount =>
        have htaken := (createPlan_eq_duplicate_iff hamount hid).1 hduplicate
        exact hunknown ((hschedules id).1 htaken)

end Known

/-- An installment is not refused for being without its plan. -/
lemma refusesOrphans_iff (history : List (Exchange Answer)) : s.RefusesOrphans sources history ↔
    ∀ new, ¬ HasPlan history new.planId → s.Refuses sources new := by
  constructor
  · intro h new hunknown
    obtain ⟨e, s', hrefused, -⟩ := h new hunknown
    exact createInstallment_isError_iff.1 ⟨e, congrArg Prod.fst hrefused⟩
  · intro hrefuses new hunknown
    obtain ⟨e, he⟩ := createInstallment_isError_iff.2 (hrefuses new hunknown)
    have hanswer : State.answer sources (.createInstallment new) s =
        (.error e, (State.answer sources (.createInstallment new) s).2) := Prod.ext he rfl
    exact ⟨e, _, hanswer, answer_of_isError hanswer⟩

/-- What is known after calls to an empty store is what they stored. -/
lemma known_callAll (calls : List Call) (id : Identifier) :
    let history := (callAll calls).exchanges (State.answer sources) {}
    id ∈ ((callAll calls).run (State.answer sources) {}).state.schedules ↔
      HasPlan history id ∨ HasInstallment history id := by
  intro history
  have hnone : id ∉ State.schedules {} := List.not_mem_nil
  rw [mem_schedules_run_iff, or_iff_right hnone]
  simp only [and_or_left, exists_or]
  rfl

/-- **A store knows a plan once it or one of its installments was stored.**  After any calls the
schedules that are listed, the identifiers that are taken and the installments that are refused
are told by what was stored.  So the store knows exactly the plans that were created as long as no
installment came without its plan; and one that comes without its plan is refused only for want of
an amount or of an identifier. -/
theorem registers_and_knowsPlans_iff (sources : Sources) (calls : List Call) :
    let history := (callAll calls).exchanges (State.answer sources) {}
    let s := ((callAll calls).run (State.answer sources) {}).state
    s.Registers sources history ∧
      (s.KnowsPlans sources history ↔ ∀ id, HasInstallment history id → HasPlan history id) ∧
      (s.RefusesOrphans sources history ↔
        ∀ new, ¬ HasPlan history new.planId → s.Refuses sources new) := by
  intro history s
  have hknown : ∀ id, id ∈ s.schedules ↔ HasPlan history id ∨ HasInstallment history id :=
    known_callAll calls
  exact ⟨registers_of_known hknown, knowsPlans_iff_of_known hknown, refusesOrphans_iff history⟩

/-- An installment of a plan that there never was. -/
def orphan : NewInstallment := ⟨.sequence 7, "usdc", "10", .epoch, .pending⟩

/-- What is stored for it. -/
def storedOrphan : Installment :=
  ⟨.sequence 1, .sequence 7, "usdc",
    ⟨false, { Magnitude.zero with units := 10, units_lt := by decide }⟩, .epoch, .pending, .epoch,
    .epoch⟩

lemma createInstallment_orphan : State.answer .plain (.createInstallment orphan) {} =
    (.ok storedOrphan,
      { schedules := [.sequence 7], installments := [storedOrphan], drawn := 1, ticks := 1 }) := by
  decide +kernel

/-- The orphan is stored; then its plan is known, although it was never created, and can no
longer be. -/
theorem not_knowsPlans_orphan :
    let history := (callAll [.createInstallment orphan]).exchanges (State.answer .plain) {}
    let s := ((callAll [.createInstallment orphan]).run (State.answer .plain) {}).state
    ¬ HasPlan history orphan.planId ∧
      (∃ i, (State.answer .plain (.createInstallment orphan) {}).1 = .ok i) ∧
      (∃ is, (State.answer .plain (.listInstallments orphan.planId) s).1 = .ok is) ∧
      (State.answer .plain
          (.createPlan ⟨some orphan.planId, .sequence 1, "usdc", "10", .pending⟩) s).1 =
        .error (duplicate orphan.planId) ∧
      ¬ s.KnowsPlans .plain history ∧ ¬ State.RefusesOrphans .plain [] {} := by
  intro history s
  have hhistory : history = [⟨.createInstallment orphan, .ok storedOrphan⟩] := by
    simp only [history, callAll, Program.exchanges, createInstallment_orphan]
  have hplan : ¬ HasPlan history orphan.planId := by
    rw [hhistory]
    rintro ⟨x, hx, hstores⟩
    obtain rfl := List.mem_singleton.1 hx
    exact hstores
  have hinstallment : HasInstallment history orphan.planId := by
    rw [hhistory]
    exact ⟨_, List.mem_singleton_self _, rfl⟩
  have hopen : orphan.planId ∈ s.schedules := (known_callAll _ _).2 (Or.inr hinstallment)
  have hlisted : ∃ is, (State.answer .plain (.listInstallments orphan.planId) s).1 = .ok is :=
    listInstallments_isOk_iff.2 hopen
  have hamount : Amount.ofText "10" = .ok storedOrphan.amount := by decide +kernel
  refine ⟨hplan, ⟨_, congrArg Prod.fst createInstallment_orphan⟩, hlisted, ?_, ?_, ?_⟩
  · exact (createPlan_eq_duplicate_iff hamount rfl).2 hopen
  · exact fun hknows => hplan ((hknows.listed _).1 hlisted)
  · intro hrefuses
    have hnoPlan : ¬ HasPlan [] orphan.planId := by
      rintro ⟨x, hx, -⟩
      exact List.not_mem_nil hx
    obtain ⟨e, s', hrefused, -⟩ := hrefuses orphan hnoPlan
    cases createInstallment_orphan.symm.trans hrefused

end Memory

end PaymentPlans
