/-
# What is read

Listings and completions only read.  What they give is told by what the repository shows: which
plans each user has, and which installments each of these plans has.
-/
import Mathlib.Tactic.Common
import PaymentPlans.Service

namespace PaymentPlans.Service

open Repository (Call Answer)

variable {σ : Type} {answer : (c : Call) → σ → Answer c × σ} {s : σ}
variable {plansOf : Identifier → List Plan} {installmentsAt : Identifier → List Installment}

/-- A repository in a state shows these plans and these installments. -/
structure Shows (answer : (c : Call) → σ → Answer c × σ) (s : σ)
    (plansOf : Identifier → List Plan) (installmentsAt : Identifier → List Installment) :
    Prop where
  plans : ∀ userId, answer (.listPlans userId) s =
    (if plansOf userId = [] then .error (.notFound "payment plan" userId)
      else .ok (plansOf userId), s)
  installments : ∀ userId, ∀ plan ∈ plansOf userId,
    answer (.listInstallments plan.id) s = (.ok (installmentsAt plan.id), s)

lemma run_installmentsOf {planId : Identifier} {installments : List Installment}
    (h : answer (.listInstallments planId) s = (.ok installments, s)) :
    (installmentsOf planId).run answer s = ⟨.ok installments, s, []⟩ := by
  simp [installmentsOf, Repository.listInstallments, Program.run, h]

lemma run_viewAll {plans : List Plan}
    (h : ∀ plan ∈ plans, answer (.listInstallments plan.id) s = (.ok (installmentsAt plan.id), s)) :
    (viewAll plans).run answer s =
      ⟨.ok (plans.map fun plan => plan.view (installmentsAt plan.id)), s, []⟩ := by
  induction plans with
  | nil => rfl
  | cons plan plans ih =>
    rw [List.forall_mem_cons] at h
    simp only [viewAll, Program.bind_eq_bind, Program.run_bind, run_installmentsOf h.1, ih h.2]
    rfl

/-- A listing gives the plans of a user with their installments; a user without plans is an
error. -/
theorem Shows.list (h : Shows answer s plansOf installmentsAt) (userId : Identifier) :
    ((list userId).run answer s).value =
        (if plansOf userId = [] then .error (.noPlans userId)
          else .ok ((plansOf userId).map fun plan => plan.view (installmentsAt plan.id))) ∧
      ((list userId).run answer s).state = s := by
  simp only [Service.list, Repository.listPlans, Program.bind_eq_bind, Program.say_bind,
    Program.ask_bind, Program.run, h.plans userId]
  cases hplans : plansOf userId with
  | nil => exact ⟨rfl, rfl⟩
  | cons plan plans =>
    have hshown := h.installments userId
    rw [hplans] at hshown
    simp only [reduceCtorEq, if_false, run_viewAll hshown, and_self]

lemma payFirst_map {f : Installment → Installment}
    (hf : ∀ i, f { i with status := .paid } = { f i with status := .paid })
    (installments : List Installment) :
    (payFirst installments).map f = payFirst (installments.map f) := by
  cases installments with
  | nil => rfl
  | cons first rest => simp only [payFirst, List.map_cons, hf]

lemma payFirst_dueAt (installments : List Installment) :
    (payFirst installments).map Installment.dueAt = installments.map Installment.dueAt := by
  cases installments <;> rfl

/-- A completion gives the plan of the user with its first installment shown as paid. -/
theorem Shows.complete (h : Shows answer s plansOf installmentsAt) (planId : Identifier)
    (request : CompletionRequest) :
    ((complete planId request).run answer s).value =
        (match (plansOf request.userId).find? fun plan => plan.id = planId with
          | none => .error (.planNotFound request.userId planId)
          | some plan => .ok (plan.view (payFirst (installmentsAt plan.id)))) ∧
      ((complete planId request).run answer s).state = s := by
  simp only [Service.complete, Repository.listPlans, Program.bind_eq_bind, Program.ask_bind,
    Program.run, h.plans request.userId]
  cases hplans : plansOf request.userId with
  | nil => exact ⟨rfl, rfl⟩
  | cons plan plans =>
    simp only [reduceCtorEq, if_false]
    cases hfind : (plan :: plans).find? fun plan => plan.id = planId with
    | none => exact ⟨rfl, rfl⟩
    | some found =>
      have hmem : found ∈ plansOf request.userId := by
        rw [hplans]
        exact List.mem_of_find?_eq_some hfind
      have hfirst := run_installmentsOf (h.installments request.userId found hmem)
      simp only [Program.run_bind, hfirst, Program.run_forM_say]
      exact ⟨rfl, rfl⟩

end PaymentPlans.Service
