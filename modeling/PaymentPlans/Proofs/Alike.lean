/-
# What two repositories give alike

Two repositories can give the same only up to what is their own: the times at which they stored
things, and the words of their failures.  One of them may keep due dates only as a database does.
-/
import PaymentPlans.Instant.Kept
import PaymentPlans.Proofs.Reading
import PaymentPlans.Service.Operation

namespace PaymentPlans

/-! ## Entities and views -/

/-- A plan without the times at which it was stored. -/
def Plan.timeless (plan : Plan) : Plan := { plan with createdAt := .epoch, updatedAt := .epoch }

/-- An installment without the times at which it was stored. -/
def Installment.timeless (i : Installment) : Installment :=
  { i with createdAt := .epoch, updatedAt := .epoch }

/-- An installment with its due date as a database keeps it. -/
def Installment.kept (i : Installment) : Installment := { i with dueAt := i.dueAt.kept }

/-- The view of an installment without the times at which it was stored. -/
def InstallmentView.timeless (i : InstallmentView) : InstallmentView :=
  { i with createdAt := .epoch, updatedAt := .epoch }

/-- The view of an installment with its due date as a database keeps it. -/
def InstallmentView.kept (i : InstallmentView) : InstallmentView := { i with dueAt := i.dueAt.kept }

namespace PlanView

/-- A view without the times at which its parts were stored. -/
def timeless (view : PlanView) : PlanView :=
  { view with createdAt := .epoch, updatedAt := .epoch,
              installments := view.installments.map InstallmentView.timeless }

/-- A view with the due dates as a database keeps them. -/
def kept (view : PlanView) : PlanView :=
  { view with installments := view.installments.map InstallmentView.kept }

/-- The installments of a view are due one after the other, also as a database keeps it. -/
def KeepsOrder (view : PlanView) : Prop :=
  view.installments.Pairwise fun a b => a.dueAt.kept.notAfter b.dueAt.kept

end PlanView

section

variable (plan : Plan) (installments : List Installment)

lemma timeless_view :
    (plan.view installments).timeless =
      plan.timeless.view (installments.map Installment.timeless) := by
  simp [PlanView.timeless, Plan.view, Plan.timeless, Function.comp_def, InstallmentView.timeless,
    Installment.timeless, Installment.view]

lemma kept_view :
    (plan.view installments).kept = plan.view (installments.map Installment.kept) := by
  simp [PlanView.kept, Plan.view, Function.comp_def, InstallmentView.kept, Installment.kept,
    Installment.view]

lemma keepsOrder_view : (plan.view installments).KeepsOrder ↔
    (installments.map Installment.dueAt).Pairwise fun a b => a.kept.notAfter b.kept := by
  simp only [PlanView.KeepsOrder, Plan.view, List.pairwise_map, Installment.view]

variable {installments} in
lemma keepsOrder_congr {others : List Installment}
    (h : installments.map Installment.dueAt = others.map Installment.dueAt) :
    (plan.view installments).KeepsOrder ↔ (plan.view others).KeepsOrder := by
  rw [keepsOrder_view, keepsOrder_view, h]

end

/-! ## Errors and operations -/

/-- An error without the words of what failed behind it. -/
def RepositoryError.plain : RepositoryError → RepositoryError
  | .queryFailed operation _ => .queryFailed operation []
  | e => e

/-- An error without the words of what failed behind it. -/
def ServiceError.plain : ServiceError → ServiceError
  | .noPlans userId => .noPlans userId
  | .planNotFound userId planId => .planNotFound userId planId
  | .noIdentifier planId persisted source => .noIdentifier planId persisted source.plain
  | .badAmount text source => .badAmount text source.plain
  | .planNotCreated userId source => .planNotCreated userId source.plain
  | .installmentNotCreated planId persisted requested source =>
    .installmentNotCreated planId persisted requested source.plain
  | .plansNotListed userId source => .plansNotListed userId source.plain
  | .installmentsNotListed planId source => .installmentsNotListed planId source.plain

namespace Served

/-- Two repositories served an operation alike, the second one being a database. -/
inductive Alike : Served → Served → Prop where
  | created {request : PlanRequest} {view view' : PlanView}
      (same : view.kept.timeless = view'.timeless) :
      Alike ⟨.create request, .ok view⟩ ⟨.create request, .ok view'⟩
  | listed {userId : Identifier} {views views' : List PlanView}
      (same : views.map (fun view => view.kept.timeless) = views'.map PlanView.timeless) :
      Alike ⟨.list userId, .ok views⟩ ⟨.list userId, .ok views'⟩
  | completed {planId : Identifier} {request : CompletionRequest} {view view' : PlanView}
      (same : view.kept.timeless = view'.timeless) :
      Alike ⟨.complete planId request, .ok view⟩ ⟨.complete planId request, .ok view'⟩
  | failed {o : Operation} {e e' : ServiceError} (same : e.plain = e'.plain) :
      Alike ⟨o, .error e⟩ ⟨o, .error e'⟩

/-- Whatever was read back is due one after the other, also as a database keeps it. -/
def KeepsOrder : Served → Prop
  | ⟨.list _, .ok views⟩ => ∀ view ∈ views, view.KeepsOrder
  | ⟨.complete .., .ok view⟩ => view.KeepsOrder
  | _ => True

lemma keepsOrder_create (request : PlanRequest) (outcome : (Operation.create request).Outcome) :
    Served.KeepsOrder ⟨.create request, outcome⟩ := by
  cases outcome <;> trivial

/-- A listing keeps its order when each plan that it is about does. -/
lemma keepsOrder_list (userId : Identifier) (e : ServiceError) (plans : List Plan)
    (installmentsAt : Identifier → List Installment) :
    Served.KeepsOrder ⟨.list userId, if plans = [] then .error e
        else .ok (plans.map fun plan => plan.view (installmentsAt plan.id))⟩ ↔
      ∀ plan ∈ plans, (plan.view (installmentsAt plan.id)).KeepsOrder := by
  by_cases hempty : plans = []
  · subst hempty
    exact ⟨fun _ _ hplan => absurd hplan List.not_mem_nil, fun _ => trivial⟩
  · rw [if_neg hempty]
    exact List.forall_mem_map

end Served

end PaymentPlans
