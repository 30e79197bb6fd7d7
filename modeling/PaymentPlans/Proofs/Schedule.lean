/-
# The order of a schedule

The schedule of a request is its installments in a stable order by due date: each of them once,
none before one that is due earlier, and those that are due at the same instant in the order of
the request.
-/
import Mathlib.Data.List.Sort
import PaymentPlans.Service

namespace PaymentPlans

/-- A list of installments is another one in a stable order by due date. -/
structure IsStableByDue (asked ordered : List InstallmentRequest) : Prop where
  /-- Each installment is there, as often as it was asked for. -/
  perm : ordered.Perm asked
  /-- No installment stands before one that is due earlier. -/
  ascending : ordered.Pairwise fun a b => a.dueAt.notAfter b.dueAt
  /-- Those due at the same instant stay in their order. -/
  stable : ∀ dueAt, ordered.filter (·.dueAt = dueAt) = asked.filter (·.dueAt = dueAt)

lemma InstallmentRequest.dueAt_trans (a b c : InstallmentRequest) (h : a.dueAt.notAfter b.dueAt)
    (k : b.dueAt.notAfter c.dueAt) : a.dueAt.notAfter c.dueAt := Instant.notAfter_trans h k

lemma InstallmentRequest.dueAt_total (a b : InstallmentRequest) :
    (a.dueAt.notAfter b.dueAt || b.dueAt.notAfter a.dueAt) = true := Instant.notAfter_total _ _

lemma Instant.notAfter_refl (i : Instant) : i.notAfter i := by
  simpa using Instant.notAfter_total i i

namespace PlanRequest

variable (request : PlanRequest)

lemma schedule_perm : request.schedule.Perm request.installments := List.mergeSort_perm _ _

@[simp] lemma length_schedule : request.schedule.length = request.installments.length :=
  request.schedule_perm.length_eq

/-- The amounts of a schedule are among those of its request. -/
lemma amount_mem_amounts {asked : InstallmentRequest} (h : asked ∈ request.schedule) :
    asked.amount ∈ request.amounts :=
  List.mem_cons_of_mem _ (List.mem_map_of_mem (request.schedule_perm.subset h))

lemma totalAmount_mem_amounts : request.totalAmount ∈ request.amounts := List.mem_cons_self

lemma schedule_ascending : request.schedule.Pairwise fun a b => a.dueAt.notAfter b.dueAt :=
  List.pairwise_mergeSort InstallmentRequest.dueAt_trans InstallmentRequest.dueAt_total _

/-- What is asked for in order is done in that order. -/
lemma schedule_eq_self
    (h : request.installments.Pairwise fun a b => a.dueAt.notAfter b.dueAt) :
    request.schedule = request.installments := List.mergeSort_of_pairwise h

/-- Those due at one instant form a sorted sublist of the request, which a stable sort keeps; as
the sort only permutes, nothing else in the schedule is due at that instant. -/
lemma schedule_stable (dueAt : Instant) :
    request.schedule.filter (·.dueAt = dueAt) = request.installments.filter (·.dueAt = dueAt) := by
  have hties : (request.installments.filter (·.dueAt = dueAt)).Pairwise
      fun a b => a.dueAt.notAfter b.dueAt := by
    refine List.pairwise_of_forall_mem_list fun a ha b hb => ?_
    rw [List.mem_filter, decide_eq_true_eq] at ha hb
    rw [ha.2, hb.2]
    exact dueAt.notAfter_refl
  have hsub : (request.installments.filter (·.dueAt = dueAt)).Sublist request.schedule :=
    List.sublist_mergeSort InstallmentRequest.dueAt_trans InstallmentRequest.dueAt_total hties
      List.filter_sublist
  have hsub' := hsub.filter (·.dueAt = dueAt)
  simp only [List.filter_filter, Bool.and_self] at hsub'
  exact (hsub'.eq_of_length (request.schedule_perm.filter _).length_eq.symm).symm

theorem schedule_isStableByDue : IsStableByDue request.installments request.schedule :=
  ⟨request.schedule_perm, request.schedule_ascending, request.schedule_stable⟩

end PlanRequest

end PaymentPlans
