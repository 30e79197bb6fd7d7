/-
# The order of what a store shows

A store shows every schedule with the earliest due first, and it still does when due dates are
taken as a database keeps them, unless leap seconds were asked for.
-/
import PaymentPlans.Proofs.Alike
import PaymentPlans.Proofs.Instant.Kept
import PaymentPlans.Proofs.Memory.Log

namespace PaymentPlans

/-- Whether an instant is a leap second. -/
def Instant.isLeap (i : Instant) : Bool := Instant.nanosPerSecond ≤ i.nano

/-- Whether an operation asks for an installment that is due in a leap second. -/
def Operation.asksForLeap : Operation → Bool
  | create request => request.installments.any fun asked => asked.dueAt.isLeap
  | _ => false

namespace Memory

variable {sources : Sources} {base s : State}

/-- The schedules are in the order in which they are due, and no leap second is among their
dates. -/
structure State.Ordered (s : State) : Prop where
  kept : s.WellKept
  ascending : ∀ id, (s.installmentsOf id).Pairwise fun a b => a.dueAt.notAfter b.dueAt
  plain : ∀ i ∈ s.installments, i.dueAt.isLeap = false

lemma ordered_empty : State.Ordered {} where
  kept := wellKept_empty
  ascending _ := .nil
  plain := by simp

/-- A schedule keeps its order, also as a database keeps it. -/
lemma State.Ordered.keepsOrder (h : s.Ordered) (plan : Plan) :
    (plan.view (s.installmentsOf plan.id)).KeepsOrder := by
  have hplain : ∀ i ∈ s.installmentsOf plan.id, i.dueAt.nano < Instant.nanosPerSecond := by
    intro i hi
    have hi := h.plain i (List.mem_filter.1 hi).1
    simpa [Instant.isLeap] using hi
  rw [keepsOrder_view, List.pairwise_map]
  refine (h.ascending plan.id).imp_of_mem fun ha hb hle => ?_
  exact Instant.kept_notAfter (hplain _ ha) (hplain _ hb) hle

/-- The due dates of what a creation stored are among those that it was asked for. -/
lemma exists_asked_of_startsSchedule {request : PlanRequest} {planId : Identifier}
    {installments : List Installment} (h : StartsSchedule request planId installments) :
    ∀ i ∈ installments, ∃ asked ∈ request.installments, i.dueAt = asked.dueAt := by
  intro i hi
  obtain ⟨front, hstart, hmap⟩ := h.map_dueAt
  have hdue : i.dueAt ∈ front.map InstallmentRequest.dueAt := by
    rw [← hmap]
    exact List.mem_map_of_mem hi
  obtain ⟨asked, hasked, hdue⟩ := List.mem_map.1 hdue
  exact ⟨asked, request.schedule_perm.subset (hstart.subset hasked), hdue.symm⟩

/-- A creation without leap seconds keeps the order of all schedules. -/
lemma Grown.ordered {request : PlanRequest} {progress : Progress}
    (h : Grown request base progress s) (hbase : base.Ordered)
    (hplain : ∀ asked ∈ request.installments, asked.dueAt.isLeap = false) : s.Ordered := by
  refine ⟨h.wellKept hbase.kept, h.ascending hbase.kept hbase.ascending, fun i hi => ?_⟩
  rw [h.installments, List.mem_append] at hi
  rcases hi with hi | hi
  · exact hbase.plain i hi
  · have hstarts := h.follows.startsSchedule (h.follows.planId i hi)
    obtain ⟨asked, hasked, hdue⟩ := exists_asked_of_startsSchedule hstarts i hi
    rw [hdue]
    exact hplain asked hasked

/-- Whatever is read back after operations without leap seconds keeps its order. -/
theorem serve_keepsOrder (sources : Sources) (o : Operation) (h : s.Ordered)
    (hplain : o.asksForLeap = false) :
    let next := s.serve sources o.program
    next.state.Ordered ∧ Served.KeepsOrder ⟨o, next.value⟩ := by
  cases o with
  | create request =>
    obtain ⟨progress, -, hgrown⟩ := create_grown sources request s
    have hasked : ∀ asked ∈ request.installments, asked.dueAt.isLeap = false := by
      simpa [Operation.asksForLeap] using hplain
    exact ⟨hgrown.ordered h hasked, Served.keepsOrder_create request _⟩
  | list userId =>
    simp only [Operation.program, serve_list_value h.kept.plans, serve_list_state h.kept.plans]
    exact ⟨h, (Served.keepsOrder_list userId _ _ _).2 fun plan _ => h.keepsOrder plan⟩
  | complete planId request =>
    simp only [Operation.program, serve_complete_value h.kept.plans,
      serve_complete_state h.kept.plans]
    refine ⟨h, ?_⟩
    cases (s.plansOf request.userId).find? fun plan => plan.id = planId with
    | none => trivial
    | some plan =>
      exact (keepsOrder_congr plan (Service.payFirst_dueAt _)).2 (h.keepsOrder plan)

theorem serveAll_keepsOrder (sources : Sources) (operations : List Operation) (h : s.Ordered)
    (hplain : ∀ o ∈ operations, o.asksForLeap = false) :
    ∀ m ∈ (serveAll (State.serve sources) operations s).1, m.KeepsOrder := by
  induction operations generalizing s with
  | nil => exact fun _ hm => absurd hm List.not_mem_nil
  | cons o operations ih =>
    rw [List.forall_mem_cons] at hplain
    obtain ⟨hnext, hkeeps⟩ := serve_keepsOrder sources o h hplain.1
    exact List.forall_mem_cons.2 ⟨hkeeps, ih hnext hplain.2⟩

end Memory

end PaymentPlans
