/-
# Calls to the two tables

A call to a repository of tables is a step of the tables: what comes back are the rows that the
statements of the call stored or selected, for every row that is stored can be read again.
-/
import PaymentPlans.Proofs.Reading
import PaymentPlans.Proofs.Traversal
import PaymentPlans.Relational.Tables

namespace PaymentPlans.Relational

open Sql (send)

variable {defaults : Defaults} {t : Tables}

/-- Answers a call. -/
def Tables.answer (defaults : Defaults) (c : Repository.Call) (t : Tables) :
    Repository.Answer c × Tables :=
  ((t.run defaults (respond c)).value, (t.run defaults (respond c)).state)

lemma serve_value {α : Type} (p : RepositoryProgram α) :
    (t.serve defaults p).value = (p.run (Tables.answer defaults) t).value :=
  (Program.run_refine respond p t).1

lemma serve_state {α : Type} (p : RepositoryProgram α) :
    (t.serve defaults p).state = (p.run (Tables.answer defaults) t).state :=
  (Program.run_refine respond p t).2

lemma execute_counts (t : Tables) (s : Sql.Statement) :
    t.drawn ≤ (t.execute defaults s).2.drawn ∧ t.ticks ≤ (t.execute defaults s).2.ticks := by
  cases s with
  | insertPlan id userId currency amount status =>
    rw [Tables.execute_insertPlan]
    unfold Tables.insertPlan
    dsimp only
    split <;> dsimp only <;> split <;> omega
  | insertInstallment planId currency amount dueAt status =>
    rw [Tables.execute_insertInstallment]
    unfold Tables.insertInstallment
    dsimp only
    split
    · dsimp only
      omega
    · split <;> dsimp only <;> omega
  | _ => exact ⟨Nat.le_refl _, Nat.le_refl _⟩

/-- Neither identifiers that were drawn nor insertions are ever taken back. -/
lemma answer_counts (c : Repository.Call) (t : Tables) :
    t.drawn ≤ (Tables.answer defaults c t).2.drawn ∧
      t.ticks ≤ (Tables.answer defaults c t).2.ticks :=
  ⟨Program.le_run Tables.drawn (fun s t => (execute_counts t s).1) (respond c) t,
    Program.le_run Tables.ticks (fun s t => (execute_counts t s).2) (respond c) t⟩

lemma serve_counts {α : Type} (defaults : Defaults) (p : RepositoryProgram α) (t : Tables) :
    t.drawn ≤ (t.serve defaults p).state.drawn ∧ t.ticks ≤ (t.serve defaults p).state.ticks :=
  ⟨Program.le_run Tables.drawn (fun s t => (execute_counts t s).1) (p.refine respond) t,
    Program.le_run Tables.ticks (fun s t => (execute_counts t s).2) (p.refine respond) t⟩

/-! ## Rows -/

/-- The row of a plan. -/
def rowOfPlan (plan : Plan) : PlanRow :=
  ⟨plan.id, plan.userId, plan.currency, plan.amount, plan.status.text, plan.createdAt,
    plan.updatedAt⟩

/-- The row of an installment. -/
def rowOfInstallment (i : Installment) : InstallmentRow :=
  ⟨i.id, i.planId, i.currency, i.amount, i.dueAt, i.status.text, i.createdAt, i.updatedAt⟩

@[simp] lemma decode?_cellsOfPlan (plan : Plan) :
    PlanRow.decode? (cellsOfPlan plan) = some (rowOfPlan plan) := rfl

@[simp] lemma decode?_cellsOfInstallment (i : Installment) :
    InstallmentRow.decode? (cellsOfInstallment i) = some (rowOfInstallment i) := rfl

@[simp] lemma plan_rowOfPlan (shape : Shape) (plan : Plan) :
    (rowOfPlan plan).plan shape = .ok plan := by
  simp [rowOfPlan, PlanRow.plan]

@[simp] lemma installment_rowOfInstallment (shape : Shape) (i : Installment) :
    (rowOfInstallment i).installment shape = .ok i := by
  simp [rowOfInstallment, InstallmentRow.installment]

/-- Rows that are the columns of something are decoded one by one. -/
lemma all?_map {ρ ε : Type} {decode : Sql.Row → Option ρ} {cellsOf : ε → Sql.Row} {rowOf : ε → ρ}
    (h : ∀ e, decode (cellsOf e) = some (rowOf e)) (entities : List ε) :
    Sql.Reply.all? decode (.ok (entities.map cellsOf)) = some (entities.map rowOf) := by
  rw [Sql.Reply.all?]
  induction entities with
  | nil => rfl
  | cons e entities ih =>
    rw [List.map_cons, List.mapM_cons, h, ih]
    rfl

lemma all?_cellsOfPlan (plans : List Plan) :
    Sql.Reply.all? PlanRow.decode? (.ok (plans.map cellsOfPlan)) =
      some (plans.map rowOfPlan) :=
  all?_map decode?_cellsOfPlan plans

lemma all?_cellsOfInstallment (installments : List Installment) :
    Sql.Reply.all? InstallmentRow.decode? (.ok (installments.map cellsOfInstallment)) =
      some (installments.map rowOfInstallment) :=
  all?_map decode?_cellsOfInstallment installments

lemma mapM_plan (shape : Shape) (plans : List Plan) :
    (plans.map rowOfPlan).mapM (PlanRow.plan shape) = .ok plans :=
  mapM_map_eq_ok (plan_rowOfPlan shape) plans

lemma mapM_installment (shape : Shape) (installments : List Installment) :
    (installments.map rowOfInstallment).mapM (InstallmentRow.installment shape) =
      .ok installments :=
  mapM_map_eq_ok (installment_rowOfInstallment shape) installments

/-! ## Reading -/

lemma answer_listPlans (userId : Identifier) :
    Tables.answer defaults (.listPlans userId) t =
      (if t.plansOf userId = [] then .error (.notFound "payment plan" userId)
        else .ok (t.plansOf userId), t) := by
  simp only [Tables.answer, Tables.run, respond, listPlans, send, Program.bind_eq_bind,
    Program.ask_bind, Program.run, Tables.execute_listPlans, all?_cellsOfPlan]
  cases hplans : t.plansOf userId with
  | nil => rfl
  | cons plan plans =>
    have hrows := mapM_plan .listed (plan :: plans)
    rw [List.map_cons] at hrows ⊢
    simp only [hrows, Program.pure_eq_done, Program.run, reduceCtorEq, if_false]

lemma run_getPlan (defaults : Defaults) {planId : Identifier}
    (hplan : planId ∈ t.plans.map Plan.id) :
    ∃ plan, (getPlan planId).run (fun s t => t.execute defaults s) t = ⟨.ok plan, t, []⟩ := by
  obtain ⟨plan, hmem, hid⟩ := List.mem_map.1 hplan
  cases hfound : t.plans.filter fun plan => plan.id = planId with
  | nil => exact absurd hid (by simpa using List.filter_eq_nil_iff.1 hfound plan hmem)
  | cons found others =>
    refine ⟨found, ?_⟩
    simp [getPlan, send, Program.run, hfound, Sql.Reply.atMostOne?]

lemma answer_listInstallments {planId : Identifier} (hplan : planId ∈ t.plans.map Plan.id) :
    Tables.answer defaults (.listInstallments planId) t = (.ok (t.installmentsOf planId), t) := by
  simp only [Tables.answer, Tables.run, respond, listInstallments, send, Program.bind_eq_bind,
    Program.ask_bind, Program.run, Tables.execute_listInstallments, all?_cellsOfInstallment]
  cases hinstallments : t.installmentsOf planId with
  | nil =>
    -- There is no row, so the plan is looked up, and it is there.
    obtain ⟨plan, hfound⟩ := run_getPlan defaults hplan
    simp only [List.map_nil, Program.run_bind, hfound, Program.pure_eq_done, Program.run]
  | cons i installments =>
    have hrows := mapM_installment .listed (i :: installments)
    rw [List.map_cons] at hrows ⊢
    simp only [hrows, Program.pure_eq_done, Program.run]

/-- Tables show what they hold. -/
lemma Tables.shows : Service.Shows (Tables.answer defaults) t t.plansOf t.installmentsOf where
  plans := answer_listPlans
  installments userId plan hplan := by
    refine answer_listInstallments (List.mem_map_of_mem ?_)
    exact (List.mem_filter.1 (List.mem_mergeSort.1 hplan)).1

/-! ## Writing -/

lemma answer_createPlan {new : NewPlan} {amount : Amount}
    (hamount : Amount.ofText new.amount = .ok amount) :
    Tables.answer defaults (.createPlan new) t =
      let id := new.id.getD (defaults.identifier t.drawn)
      let now := defaults.time t.ticks
      let plan : Plan := ⟨id, new.userId, new.currency, amount, new.status, now, now⟩
      let t' := { t with drawn := if new.id.isSome then t.drawn else t.drawn + 1,
                         ticks := t.ticks + 1 }
      if id ∈ t.plans.map Plan.id then
        (.error (failed "insert_payment_plan" "failed to insert payment plan"), t')
      else (.ok plan, { t' with plans := t.plans ++ [plan] }) := by
  have hread : readAmount new.amount = .ok amount := by rw [readAmount, hamount]; rfl
  by_cases htaken : new.id.getD (defaults.identifier t.drawn) ∈ t.plans.map Plan.id
  · simp only [Tables.answer, Tables.run, respond, createPlan, hread, send, Program.bind_eq_bind,
      Program.ask_bind, Program.run, Tables.execute_insertPlan, Tables.insertPlan, htaken, if_true,
      Sql.Reply.one?]
    rfl
  · simp only [Tables.answer, Tables.run, respond, createPlan, hread, send, Program.bind_eq_bind,
      Program.ask_bind, Program.run, Tables.execute_insertPlan, Tables.insertPlan, htaken, if_false,
      Sql.Reply.one?, decode?_cellsOfPlan, Program.say_bind, plan_rowOfPlan,
      Program.pure_eq_done]

lemma answer_createPlan_ticks (defaults : Defaults) (t : Tables) (new : NewPlan) {amount : Amount}
    (hamount : Amount.ofText new.amount = .ok amount) :
    (Tables.answer defaults (.createPlan new) t).2.ticks = t.ticks + 1 := by
  rw [answer_createPlan hamount]
  dsimp only
  split <;> rfl

/-- Each attempt to store an installment takes an identifier and a reading of the clock, whether or
not it succeeds. -/
lemma answer_createInstallment_counts (defaults : Defaults) (t : Tables) (new : NewInstallment)
    {amount : Amount} (hamount : Amount.ofText new.amount = .ok amount) :
    (Tables.answer defaults (.createInstallment new) t).2.drawn = t.drawn + 1 ∧
      (Tables.answer defaults (.createInstallment new) t).2.ticks = t.ticks + 1 := by
  have hread : readAmount new.amount = .ok amount := by rw [readAmount, hamount]; rfl
  by_cases hfresh : defaults.identifier t.drawn ∈ t.installments.map Installment.id
  · simp [Tables.answer, Tables.run, respond, createInstallment, hread, send, Program.run,
      Tables.insertInstallment, hfresh, Sql.Reply.one?]
  · by_cases hplan : new.planId ∈ t.plans.map Plan.id <;>
      simp [Tables.answer, Tables.run, respond, createInstallment, hread, send, Program.run,
        Tables.insertInstallment, hfresh, hplan, Sql.Reply.one?]

lemma answer_createInstallment {new : NewInstallment} {amount : Amount}
    (hamount : Amount.ofText new.amount = .ok amount)
    (hfresh : defaults.identifier t.drawn ∉ t.installments.map Installment.id)
    (hplan : new.planId ∈ t.plans.map Plan.id) :
    Tables.answer defaults (.createInstallment new) t =
      let now := defaults.time t.ticks
      let i : Installment :=
        ⟨defaults.identifier t.drawn, new.planId, new.currency, amount, new.dueAt.kept, new.status,
          now, now⟩
      (.ok i, { t with installments := t.installments ++ [i], drawn := t.drawn + 1,
                       ticks := t.ticks + 1 }) := by
  have hread : readAmount new.amount = .ok amount := by rw [readAmount, hamount]; rfl
  simp only [Tables.answer, Tables.run, respond, createInstallment, hread, send,
    Program.bind_eq_bind, Program.ask_bind, Program.run, Tables.execute_insertInstallment,
    Tables.insertInstallment,
    hfresh, hplan, if_false, if_true, Sql.Reply.one?, decode?_cellsOfInstallment,
    installment_rowOfInstallment, Program.pure_eq_done]

end PaymentPlans.Relational
