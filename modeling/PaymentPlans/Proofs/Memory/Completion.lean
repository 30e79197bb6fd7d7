/-
# What a completion gives

A completion over a store in memory shows the plan that a listing shows, with its first
installment as paid, and leaves the store as it is.  What carries this is that no two plans in the
store have one identifier, so that the plan that is found is the plan that is listed, and that
every schedule is in the order in which it is due, so that the first installment is the earliest.
-/
import PaymentPlans.Proofs.Memory.Log

namespace PaymentPlans

/-- The plan with its first installment shown as paid; nothing else is changed. -/
def PlanView.payFirst (view : PlanView) : PlanView :=
  { view with installments := view.installments.modify 0 fun i => { i with status := .paid } }

/-- No installment of the plan is due before the first one. -/
def PlanView.StartsEarliest (view : PlanView) : Prop :=
  ∀ first ∈ view.installments.head?, ∀ i ∈ view.installments, first.dueAt.notAfter i.dueAt

/-- Whether an operation only reads. -/
def Operation.onlyReads : Operation → Bool
  | create _ => false
  | list _ | complete .. => true

lemma Plan.view_payFirst (plan : Plan) (installments : List Installment) :
    plan.view (Service.payFirst installments) = (plan.view installments).payFirst := by
  cases installments <;> rfl

lemma Plan.view_startsEarliest {plan : Plan} {installments : List Installment}
    (h : installments.Pairwise fun a b => a.dueAt.notAfter b.dueAt) :
    (plan.view installments).StartsEarliest := by
  cases h with
  | nil => exact fun _ hfirst => nomatch hfirst
  | cons hfirst _ =>
    rintro _ ⟨⟩ i hi
    rcases List.mem_cons.1 hi with rfl | hi
    · exact Instant.notAfter_refl _
    · obtain ⟨later, hlater, rfl⟩ := List.mem_map.1 hi
      exact hfirst later hlater

namespace Memory

variable {sources : Sources} {base s : State}

/-! ## A store as operations leave it -/

/-- What a store looks like that only operations have written to. -/
structure State.Orderly (s : State) : Prop where
  kept : s.WellKept
  /-- No two plans have one identifier, whichever users they belong to. -/
  unique : (s.plans.map Plan.id).Nodup
  /-- The schedules are in the order in which they are due. -/
  ascending : ∀ id, (s.installmentsOf id).Pairwise fun a b => a.dueAt.notAfter b.dueAt

lemma orderly_empty : State.Orderly {} := ⟨wellKept_empty, .nil, fun _ => .nil⟩

/-- The plan of a creation has an identifier of its own: the plans that were there have claimed
theirs, and it got one that was free. -/
lemma Grown.unique {request : PlanRequest} {progress : Progress}
    (h : Grown request base progress s) (hbase : base.WellKept)
    (hunique : (base.plans.map Plan.id).Nodup) : (s.plans.map Plan.id).Nodup := by
  rw [h.plans, List.map_append]
  cases hplan : progress.plan? with
  | none =>
    rw [Option.toList_none, List.map_nil, List.append_nil]
    exact hunique
  | some plan =>
    have hfree : plan.id ∉ base.plans.map Plan.id := by
      intro htaken
      obtain ⟨other, hother, hsame⟩ := List.mem_map.1 htaken
      exact h.fresh plan.id (Progress.planId?_of_plan? hplan) (hsame ▸ hbase.plans other hother)
    rw [Option.toList_some, List.map_singleton, ← List.concat_eq_append]
    exact hunique.concat hfree

lemma Grown.orderly {request : PlanRequest} {progress : Progress}
    (h : Grown request base progress s) (hbase : base.Orderly) : s.Orderly where
  kept := h.wellKept hbase.kept
  unique := h.unique hbase.kept hbase.unique
  ascending := h.ascending hbase.kept hbase.ascending

/-- An operation that only reads leaves a store as it is. -/
lemma serve_state_of_onlyReads {o : Operation} (ho : o.onlyReads) (h : s.WellKept) :
    (s.serve sources o.program).state = s := by
  cases o with
  | create request => exact nomatch ho
  | list userId => exact serve_list_state h.plans userId
  | complete planId request => exact serve_complete_state h.plans planId request

/-- Every operation leaves a store orderly. -/
lemma serve_orderly (sources : Sources) (o : Operation) (h : s.Orderly) :
    (s.serve sources o.program).state.Orderly := by
  cases o with
  | create request =>
    obtain ⟨progress, -, hgrown⟩ := create_grown sources request s
    exact hgrown.orderly h
  | list userId =>
    rw [serve_state_of_onlyReads rfl h.kept]
    exact h
  | complete planId request =>
    rw [serve_state_of_onlyReads rfl h.kept]
    exact h

/-- Whatever operations were served, the store is orderly. -/
theorem serveAll_orderly (sources : Sources) (operations : List Operation) (h : s.Orderly) :
    (serveAll (State.serve sources) operations s).2.Orderly := by
  induction operations generalizing s with
  | nil => exact h
  | cons o operations ih => exact ih (serve_orderly sources o h)

/-- Operations that only read are each answered as if it were alone, and they leave the store as
it is. -/
lemma serveAll_onlyReads (sources : Sources) {reads : List Operation}
    (hreads : ∀ o ∈ reads, o.onlyReads) (h : s.WellKept) :
    serveAll (State.serve sources) reads s =
      (reads.map fun o => ⟨o, (s.serve sources o.program).value⟩, s) := by
  induction reads with
  | nil => rfl
  | cons o reads ih =>
    obtain ⟨ho, hrest⟩ := List.forall_mem_cons.1 hreads
    simp only [serveAll, serve_state_of_onlyReads ho h, ih hrest, List.map_cons]

/-! ## The plan that is found -/

lemma State.Orderly.unique_plansOf (h : s.Orderly) (userId : Identifier) :
    ((s.plansOf userId).map Plan.id).Nodup := by
  have hsub : ((s.plans.filter fun plan => plan.userId = userId).map Plan.id).Sublist
      (s.plans.map Plan.id) := List.filter_sublist.map _
  rw [State.plansOf, List.map_reverse, List.nodup_reverse]
  exact h.unique.sublist hsub

/-- The first plan of a user with an identifier is the only one. -/
lemma State.Orderly.find?_eq_some_iff (h : s.Orderly) {userId planId : Identifier} {plan : Plan} :
    ((s.plansOf userId).find? fun plan => plan.id = planId) = some plan ↔
      plan ∈ s.plansOf userId ∧ plan.id = planId := by
  constructor
  · intro hfind
    exact ⟨List.mem_of_find?_eq_some hfind, by simpa using List.find?_some hfind⟩
  · rintro ⟨hmem, rfl⟩
    have hsome : ((s.plansOf userId).find? fun other => other.id = plan.id).isSome :=
      List.find?_isSome.2 ⟨plan, hmem, decide_eq_true rfl⟩
    obtain ⟨found, hfound⟩ := Option.isSome_iff_exists.1 hsome
    have hid : found.id = plan.id := by simpa using List.find?_some hfound
    rw [hfound, List.inj_on_of_nodup_map (h.unique_plansOf userId)
      (List.mem_of_find?_eq_some hfound) hmem hid]

/-! ## Completions and listings -/

lemma State.WellKept.list_eq_ok_iff (h : s.WellKept) {userId : Identifier}
    {views : List PlanView} : (s.serve sources (Service.list userId)).value = .ok views ↔
      views = s.viewsOf userId ∧ views ≠ [] := by
  have hlists : s.Lists sources userId (s.viewsOf userId) := h.lists userId
  rw [hlists]
  by_cases hempty : s.viewsOf userId = []
  · rw [if_pos hempty, hempty]
    exact ⟨nofun, fun ⟨hviews, hne⟩ => absurd hviews hne⟩
  · rw [if_neg hempty]
    constructor
    · rintro ⟨⟩
      exact ⟨rfl, hempty⟩
    · rintro ⟨rfl, -⟩
      rfl

/-- A listing of a user succeeds, and a view is among the views that it gives. -/
def State.ListsView (sources : Sources) (s : State) (userId : Identifier) (view : PlanView) :
    Prop :=
  ∃ views, (s.serve sources (Service.list userId)).value = .ok views ∧ view ∈ views

lemma State.WellKept.listsView_iff (h : s.WellKept) {userId : Identifier} {view : PlanView} :
    s.ListsView sources userId view ↔
      ∃ plan ∈ s.plansOf userId, plan.view (s.installmentsOf plan.id) = view := by
  simp only [State.ListsView, h.list_eq_ok_iff]
  rw [← List.mem_map]
  constructor
  · rintro ⟨_, ⟨rfl, -⟩, hview⟩
    exact hview
  · intro hview
    exact ⟨_, ⟨rfl, List.ne_nil_of_mem hview⟩, hview⟩

/-- A completion of a plan that is listed gives it with its first installment shown as paid. -/
lemma State.Orderly.complete_of_listsView (h : s.Orderly) {userId planId : Identifier}
    {view : PlanView} (hview : s.ListsView sources userId view) (hid : view.id = planId) :
    (s.serve sources (Service.complete planId ⟨userId⟩)).value = .ok view.payFirst := by
  obtain ⟨plan, hmem, rfl⟩ := h.kept.listsView_iff.1 hview
  have hfind : ((s.plansOf userId).find? fun plan => plan.id = planId) = some plan :=
    h.find?_eq_some_iff.2 ⟨hmem, hid⟩
  rw [serve_complete_value h.kept.plans, ← plan.view_payFirst]
  simp only [hfind]

/-- A completion of a plan that is not listed fails as for an unknown plan. -/
lemma State.WellKept.complete_of_unlisted (h : s.WellKept) {userId planId : Identifier}
    (hnone : ∀ view, s.ListsView sources userId view → view.id ≠ planId) :
    (s.serve sources (Service.complete planId ⟨userId⟩)).value =
      .error (.planNotFound userId planId) := by
  have hfind : ((s.plansOf userId).find? fun plan => plan.id = planId) = none := by
    refine List.find?_eq_none.2 fun plan hmem => ?_
    rw [decide_eq_true_eq]
    exact hnone _ (h.listsView_iff.2 ⟨plan, hmem, rfl⟩)
  rw [serve_complete_value h.plans]
  simp only [hfind]

/-- A completion succeeds exactly when the plan is listed. -/
lemma State.Orderly.complete_eq_ok_iff (h : s.Orderly) {userId planId : Identifier}
    {paid : PlanView} :
    (s.serve sources (Service.complete planId ⟨userId⟩)).value = .ok paid ↔
      ∃ view, s.ListsView sources userId view ∧ view.id = planId ∧ paid = view.payFirst := by
  constructor
  · intro hpaid
    by_contra hunlisted
    have hnone : ∀ view, s.ListsView sources userId view → view.id ≠ planId := by
      intro view hview hid
      have hvalue := h.complete_of_listsView hview hid
      exact hunlisted ⟨view, hview, hid, Except.ok.inj (hpaid.symm.trans hvalue)⟩
    exact nomatch hpaid.symm.trans (h.kept.complete_of_unlisted hnone)
  · rintro ⟨view, hview, hid, rfl⟩
    exact h.complete_of_listsView hview hid

/-- A completion fails exactly when the plan is not listed. -/
lemma State.Orderly.complete_eq_error_iff (h : s.Orderly) {userId planId : Identifier}
    {e : ServiceError} :
    (s.serve sources (Service.complete planId ⟨userId⟩)).value = .error e ↔
      e = .planNotFound userId planId ∧
        ∀ view, s.ListsView sources userId view → view.id ≠ planId := by
  constructor
  · intro he
    have hnone : ∀ view, s.ListsView sources userId view → view.id ≠ planId := by
      intro view hview hid
      exact nomatch he.symm.trans (h.complete_of_listsView hview hid)
    exact ⟨Except.error.inj (he.symm.trans (h.kept.complete_of_unlisted hnone)), hnone⟩
  · rintro ⟨rfl, hnone⟩
    exact h.kept.complete_of_unlisted hnone

/-- **A completion pays the earliest installment of the caller's own plan, and only in what it
shows.**  After any operations, it succeeds exactly when a listing of the user shows the plan, and
then it gives that view with the first installment as paid, which is one that no other is due
before; otherwise it fails as for an unknown plan.  The store is left as it is, so operations that
only read are answered the same however often and in whatever order they are asked. -/
theorem complete_pays_earliest (sources : Sources) (operations : List Operation)
    (userId planId : Identifier) :
    let s := (serveAll (State.serve sources) operations {}).2
    let completed := s.serve sources (Service.complete planId ⟨userId⟩)
    (∀ paid, completed.value = .ok paid ↔
        ∃ view, s.ListsView sources userId view ∧ view.id = planId ∧ paid = view.payFirst) ∧
      (∀ e, completed.value = .error e ↔ e = .planNotFound userId planId ∧
        ∀ view, s.ListsView sources userId view → view.id ≠ planId) ∧
      (∀ view, s.ListsView sources userId view → view.StartsEarliest) ∧
      completed.state = s ∧
      ∀ reads : List Operation, (∀ o ∈ reads, o.onlyReads) →
        serveAll (State.serve sources) reads s =
          (reads.map fun o => ⟨o, (s.serve sources o.program).value⟩, s) := by
  intro s completed
  have horderly : s.Orderly := serveAll_orderly sources operations orderly_empty
  refine ⟨fun paid => horderly.complete_eq_ok_iff, fun e => horderly.complete_eq_error_iff, ?_,
    serve_complete_state horderly.kept.plans planId ⟨userId⟩,
    fun reads hreads => serveAll_onlyReads sources hreads horderly.kept⟩
  intro view hview
  obtain ⟨plan, -, rfl⟩ := horderly.kept.listsView_iff.1 hview
  exact plan.view_startsEarliest (horderly.ascending plan.id)

end Memory

end PaymentPlans
