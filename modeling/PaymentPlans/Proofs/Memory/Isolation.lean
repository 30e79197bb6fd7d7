/-
# Users do not see each other

Schedules are kept under the identifiers of plans, whoever the plans belong to, and callers may
choose these identifiers.  What one user does is still never seen by another one: every plan that
is listed has claimed its identifier, and a creation adds installments only under an identifier
that it has claimed itself.
-/
import PaymentPlans.Proofs.Memory.Effect
import PaymentPlans.Proofs.Memory.Log

namespace PaymentPlans

/-- The user that asks for an operation. -/
def Operation.userId : Operation → Identifier
  | create request => request.userId
  | list userId => userId
  | complete _ request => request.userId

namespace Memory

/-! ## What can be reached -/

/-- The states of a store that calls and operations lead to, in any mix. -/
inductive State.Reachable (sources : Sources) : State → Prop where
  | empty : Reachable sources {}
  /-- A call that is made without the service. -/
  | call {s : State} (c : Repository.Call) (h : Reachable sources s) :
      Reachable sources (State.answer sources c s).2
  /-- An operation of the service. -/
  | operation {s : State} (o : Operation) (h : Reachable sources s) :
      Reachable sources (s.serve sources o.program).state

variable {sources : Sources} {s s' : State}

/-- Every call keeps a store in which everything belongs together. -/
lemma State.WellKept.answer (h : s.WellKept) (sources : Sources) (c : Repository.Call) :
    (State.answer sources c s).2.WellKept := by
  rcases hanswer : State.answer sources c s with ⟨a, s'⟩
  cases effect_of_answer_eq hanswer with
  | planStored =>
    constructor
    · intro other hother
      rw [List.mem_append, List.mem_singleton] at hother
      rw [List.mem_append, List.mem_singleton]
      exact hother.imp (h.plans other) (congrArg Plan.id)
    · exact fun i hi => List.mem_append_left _ (h.installments i hi)
  | installmentStored read drawn fulfils =>
    constructor
    · exact fun plan hplan => mem_opened_iff.2 (Or.inl (h.plans plan hplan))
    · intro other hother
      rw [List.mem_append, List.mem_singleton] at hother
      refine mem_opened_iff.2 (hother.imp (h.installments other) ?_)
      rintro rfl
      rw [fulfils]
  | _ => exact ⟨h.plans, h.installments⟩

/-- Everything belongs together in all that can be reached. -/
lemma State.Reachable.wellKept (h : s.Reachable sources) : s.WellKept := by
  induction h with
  | empty => exact wellKept_empty
  | call c _ ih => exact ih.answer sources c
  | operation o _ ih => exact (serve_viewsOf sources o ih).1

/-! ## What a user is shown -/

/-- Two stores show a user the same plans with the same installments. -/
structure State.Agrees (userId : Identifier) (s s' : State) : Prop where
  plans : s'.plansOf userId = s.plansOf userId
  installments : ∀ plan ∈ s.plansOf userId, s'.installmentsOf plan.id = s.installmentsOf plan.id

lemma State.Agrees.refl (userId : Identifier) (s : State) : s.Agrees userId s :=
  ⟨rfl, fun _ _ => rfl⟩

section Agrees

variable {userId : Identifier} (h : s.Agrees userId s') (hs : s.WellKept) (hs' : s'.WellKept)
include h hs hs'

lemma State.Agrees.list : (s'.serve sources (Service.list userId)).value =
    (s.serve sources (Service.list userId)).value := by
  have hviews : (s.plansOf userId).map (fun plan => plan.view (s'.installmentsOf plan.id)) =
      (s.plansOf userId).map fun plan => plan.view (s.installmentsOf plan.id) :=
    List.map_congr_left fun plan hplan => by rw [h.installments plan hplan]
  rw [serve_list_value hs.plans, serve_list_value hs'.plans, h.plans, hviews]

lemma State.Agrees.complete (planId : Identifier) :
    (s'.serve sources (Service.complete planId ⟨userId⟩)).value =
      (s.serve sources (Service.complete planId ⟨userId⟩)).value := by
  rw [serve_complete_value hs.plans, serve_complete_value hs'.plans, h.plans]
  cases hfind : (s.plansOf userId).find? fun plan => plan.id = planId with
  | none => rfl
  | some plan => simp only [h.installments plan (List.mem_of_find?_eq_some hfind)]

end Agrees

/-- A creation is not seen by other users: its plan is listed for its own user, and it leaves the
schedules of all plans that were there. -/
lemma Grown.agrees {base : State} {request : PlanRequest} {progress : Progress}
    (h : Grown request base progress s) (hbase : base.WellKept) {userId : Identifier}
    (hother : request.userId ≠ userId) : base.Agrees userId s := by
  constructor
  · -- The plan of the creation, if there is one, is listed for another user.
    have hnone : (progress.plan?.toList.filter fun plan => plan.userId = userId) = [] := by
      refine List.filter_eq_nil_iff.2 fun plan hplan => ?_
      have huser := h.follows.userId plan (Option.mem_toList.1 hplan)
      rw [decide_eq_true_eq, huser]
      exact hother
    rw [h.plansOf userId, hnone, List.nil_append]
  · -- A plan that was there has claimed its identifier, so the creation got another one.
    intro plan hplan
    have hplan : plan ∈ base.plans := (List.mem_filter.1 (List.mem_reverse.1 hplan)).1
    exact h.installmentsOf_of_mem (hbase.plans plan hplan)

/-- An operation is not seen by other users. -/
lemma serve_agrees (sources : Sources) (o : Operation) (h : s.WellKept) {userId : Identifier}
    (hother : o.userId ≠ userId) : s.Agrees userId (s.serve sources o.program).state := by
  cases o with
  | create request =>
    obtain ⟨progress, -, hgrown⟩ := create_grown sources request s
    exact hgrown.agrees h hother
  | list other =>
    simp only [Operation.program, serve_list_state h.plans other]
    exact .refl userId s
  | complete planId request =>
    simp only [Operation.program, serve_complete_state h.plans planId request]
    exact .refl userId s

/-- **Users are isolated from each other.**  Whatever calls and operations there were before, an
operation of one user, whether it succeeds or not and whichever identifier it claims, leaves what
any other user is given by a listing and by the completion of any plan. -/
theorem users_are_isolated (h : s.Reachable sources) {userId other : Identifier}
    (hother : userId ≠ other) (o : Operation) (ho : o.userId = other) :
    let next := (s.serve sources o.program).state
    (next.serve sources (Service.list userId)).value =
        (s.serve sources (Service.list userId)).value ∧
      ∀ planId, (next.serve sources (Service.complete planId ⟨userId⟩)).value =
        (s.serve sources (Service.complete planId ⟨userId⟩)).value := by
  intro next
  have hkept := h.wellKept
  have hnext : next.WellKept := (serve_viewsOf sources o hkept).1
  have hagrees := serve_agrees sources o hkept (ho ▸ hother.symm)
  exact ⟨hagrees.list hkept hnext, hagrees.complete hkept hnext⟩

/-- A plan that a user asks for under the identifier 7. -/
def seventh (userId : Identifier) : PlanRequest :=
  ⟨some (.sequence 7), userId, "usdc", "1", [⟨"1", "usdc", .epoch⟩]⟩

/-- Two users claim the same identifier, one after the other. -/
theorem users_are_isolated_seventh :
    let s := (State.serve .plain {} (Service.create (seventh (.sequence 1)))).state
    let next := (s.serve .plain (Service.create (seventh (.sequence 2)))).state
    s.Reachable .plain ∧ Identifier.sequence 1 ≠ .sequence 2 ∧
      (Operation.create (seventh (.sequence 2))).userId = .sequence 2 ∧
      (next.serve .plain (Service.list (.sequence 1))).value =
        (s.serve .plain (Service.list (.sequence 1))).value ∧
      ∀ planId, (next.serve .plain (Service.complete planId ⟨.sequence 1⟩)).value =
        (s.serve .plain (Service.complete planId ⟨.sequence 1⟩)).value := by
  have hreachable : ((State.serve .plain {}
      (Service.create (seventh (.sequence 1)))).state).Reachable .plain :=
    .operation (.create (seventh (.sequence 1))) .empty
  have husers : Identifier.sequence 1 ≠ .sequence 2 := by decide
  exact ⟨hreachable, husers, rfl,
    users_are_isolated hreachable husers (.create (seventh (.sequence 2))) rfl⟩

end Memory

end PaymentPlans
