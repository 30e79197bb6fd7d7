/-
# The log of a store in memory

When the operations of its callers do not overlap, a store in memory is a log of creations: what
is listed for a user is one view for each creation of the user's that stored a plan, the latest
first, and an operation changes a listing only by putting one more view in front of it.

What carries this is that a creation claims an identifier that nothing in the store belongs to
yet, so that its installments are never mixed with those of another plan.
-/
import PaymentPlans.Proofs.Memory.Calls
import PaymentPlans.Proofs.Memory.Course

namespace PaymentPlans

/-- Whether it was the creation of a plan of a user that left the plan in the repository. -/
def Served.storesPlanOf (userId : Identifier) : Served → Bool
  | ⟨.create request, .ok _⟩ => request.userId = userId
  | ⟨.create request, .error e⟩ => request.userId = userId && !e.refusesPlan
  | _ => false

/-- What is listed for the plan that a creation left: the very view that the creation gave, or,
if it ended for want of an identifier, the plan with so many installments of its schedule. -/
def Served.Remembered : Served → PlanView → Prop
  | ⟨.create _, .ok given⟩, view => view = given
  | ⟨.create request, .error (.noIdentifier (some planId) persisted _)⟩, view =>
    ∃ plan installments, view = Plan.view plan installments ∧ plan.id = planId ∧
      plan.Fulfils request ∧ installments.length = persisted ∧
      List.Forall₂ (fun asked i => i.Fulfils planId asked) (request.schedule.take persisted)
        installments
  | _, _ => False

namespace Memory

variable {sources : Sources} {base s : State}

/-! ## What one creation adds -/

/-- A store has grown by what a creation stored. -/
structure Grown (request : PlanRequest) (base : State) (progress : Progress) (s : State) :
    Prop where
  plans : s.plans = base.plans ++ progress.plan?.toList
  schedules : s.schedules = base.schedules ++ progress.planId?.toList
  installments : s.installments = base.installments ++ progress.installments
  /-- The identifier that was claimed was free. -/
  fresh : ∀ id ∈ progress.planId?, id ∉ base.schedules
  follows : progress.Follows request

lemma Grown.refl (request : PlanRequest) (base : State) : Grown request base .nothing base where
  plans := (List.append_nil _).symm
  schedules := (List.append_nil _).symm
  installments := (List.append_nil _).symm
  fresh := nofun
  follows := trivial

/-- Each section that a creation may execute keeps to what it stored so far. -/
lemma Grown.execute {request : PlanRequest} {progress : Progress} {c : Section}
    (h : Grown request base progress s) (hallowed : progress.Allows request c) :
    Grown request base (progress.advance c (s.execute sources c).1) (s.execute sources c).2 := by
  have hfollows := h.follows.advance hallowed (s.execute sources c).1
  cases c with
  | drawIdentifier | readClock => cases progress <;> exact ⟨h.1, h.2, h.3, h.4, h.5⟩
  | openSchedule id =>
    cases progress with
    | nothing =>
      -- Nothing is stored yet, so what is free now was free before the creation.
      have hschedules : s.schedules = base.schedules := by
        simpa [Progress.planId?] using h.schedules
      by_cases hid : id ∈ s.schedules
      · simpa [State.execute, hid, Progress.advance] using h
      · simp only [State.execute, hid, if_false, Progress.advance] at hfollows ⊢
        refine ⟨h.plans, ?_, h.installments, ?_, hfollows⟩
        · rw [hschedules]
          rfl
        · rintro _ ⟨⟩
          rwa [← hschedules]
    | claimed | stored => exact hallowed.elim
  | addPlan plan =>
    cases progress with
    | claimed id =>
      obtain ⟨rfl, -⟩ := hallowed
      refine ⟨?_, h.schedules, h.installments, h.fresh, hfollows⟩
      have hplans : s.plans = base.plans := by simpa [Progress.plan?] using h.plans
      exact congrArg (· ++ [plan]) hplans
    | nothing | stored => exact hallowed.elim
  | addInstallment i =>
    cases progress with
    | stored plan is =>
      have hplanId : some plan.id = some i.planId :=
        hfollows.planId i (List.mem_append_right is List.mem_cons_self)
      have hopen : i.planId ∈ s.schedules := by
        rw [h.schedules, ← Option.some.inj hplanId]
        exact List.mem_concat_self
      refine ⟨h.plans, ?_, ?_, h.fresh, hfollows⟩
      · simpa [State.execute, hopen, Progress.advance, Progress.planId?] using h.schedules
      · have hinstallments := congrArg (· ++ [i]) h.installments
        simpa [State.execute, Progress.advance, Progress.installments] using hinstallments
    | nothing | claimed => exact hallowed.elim
  | plansOf | scheduleOf => cases progress <;> exact hallowed.elim

/-- A creation adds what it tells that it stored. -/
lemma create_grown (sources : Sources) (request : PlanRequest) (s : State) :
    ∃ progress,
      Progress.Accepts request progress (s.serve sources (Service.create request)).value ∧
      Grown request s progress (s.serve sources (Service.create request)).state :=
  keeps_create.run (fun _ _ _ hallowed h => ⟨trivial, h.execute hallowed⟩) (.refl request s)

/-! ## What is listed -/

/-- What a store in which everything belongs together looks like. -/
structure State.WellKept (s : State) : Prop where
  /-- The plans have schedules. -/
  plans : ∀ plan ∈ s.plans, plan.id ∈ s.schedules
  /-- The installments belong to schedules. -/
  installments : ∀ i ∈ s.installments, i.planId ∈ s.schedules

lemma wellKept_empty : State.WellKept {} := by
  constructor <;> simp

/-- The plans of a user with what is stored of their schedules, the newest first. -/
def State.viewsOf (s : State) (userId : Identifier) : List PlanView :=
  (s.plansOf userId).map fun plan => plan.view (s.installmentsOf plan.id)

/-- A listing is of some views if it gives them, and of none if it says that there are none. -/
def State.Lists (sources : Sources) (s : State) (userId : Identifier) (views : List PlanView) :
    Prop :=
  (s.serve sources (Service.list userId)).value =
    if views = [] then .error (.noPlans userId) else .ok views

lemma State.WellKept.lists (h : s.WellKept) (userId : Identifier) :
    s.Lists sources userId (s.viewsOf userId) := by
  have hviews : s.viewsOf userId = [] ↔ s.plansOf userId = [] := List.map_eq_nil_iff
  rw [State.Lists, serve_list_value h.plans]
  simp only [hviews]
  rfl

/-! ## What a creation does to the listings -/

section Grown

variable {request : PlanRequest} {progress : Progress}

lemma Grown.wellKept (h : Grown request base progress s) (hbase : base.WellKept) :
    s.WellKept := by
  constructor
  · intro plan hplan
    rw [h.plans, List.mem_append] at hplan
    rw [h.schedules, List.mem_append]
    refine hplan.imp (hbase.plans plan) fun hnew => ?_
    cases progress with
    | stored own is =>
      obtain rfl : plan = own := by simpa [Progress.plan?] using hnew
      exact List.mem_singleton_self _
    | nothing | claimed => exact absurd hnew List.not_mem_nil
  · intro i hi
    rw [h.installments, List.mem_append] at hi
    rw [h.schedules, List.mem_append]
    refine hi.imp (hbase.installments i) fun hnew => ?_
    rw [h.follows.planId i hnew]
    exact List.mem_singleton_self _

/-- The schedules that were there are still the same: the new installments belong to another
identifier. -/
lemma Grown.installmentsOf_of_mem (h : Grown request base progress s) {id : Identifier}
    (hid : id ∈ base.schedules) : s.installmentsOf id = base.installmentsOf id := by
  have hnone : progress.installments.filter (fun i => i.planId = id) = [] := by
    refine List.filter_eq_nil_iff.2 fun i hi => ?_
    have hfresh := h.fresh i.planId (h.follows.planId i hi)
    rw [decide_eq_true_eq]
    rintro rfl
    exact hfresh hid
  rw [State.installmentsOf, h.installments, List.filter_append, hnone, List.append_nil]
  rfl

/-- The new schedule is what was stored of it: none of the installments that were there belongs
to an identifier that was free. -/
lemma Grown.installmentsOf_planId (h : Grown request base progress s) (hbase : base.WellKept)
    {id : Identifier} (hid : progress.planId? = some id) :
    s.installmentsOf id = progress.installments := by
  have hnone : base.installments.filter (fun i => i.planId = id) = [] := by
    refine List.filter_eq_nil_iff.2 fun i hi => ?_
    rw [decide_eq_true_eq]
    rintro rfl
    exact h.fresh i.planId hid (hbase.installments i hi)
  have hall : progress.installments.filter (fun i => i.planId = id) = progress.installments := by
    refine List.filter_eq_self.2 fun i hi => ?_
    have := h.follows.planId i hi
    rw [hid] at this
    exact decide_eq_true (Option.some.inj this).symm
  rw [State.installmentsOf, h.installments, List.filter_append, hnone, hall, List.nil_append]

/-- Schedules stay in the order in which they are due: those that were there are as they were, and
the new one is in the order of the request's schedule. -/
lemma Grown.ascending (h : Grown request base progress s) (hbase : base.WellKept)
    (hdue : ∀ id, (base.installmentsOf id).Pairwise fun a b => a.dueAt.notAfter b.dueAt)
    (id : Identifier) : (s.installmentsOf id).Pairwise fun a b => a.dueAt.notAfter b.dueAt := by
  by_cases hid : id ∈ base.schedules
  · rw [h.installmentsOf_of_mem hid]
    exact hdue id
  · by_cases hnew : progress.planId? = some id
    · rw [h.installmentsOf_planId hbase hnew]
      exact (h.follows.startsSchedule hnew).ascending
    · -- Nothing is stored under an identifier without a schedule.
      have hnone : s.installmentsOf id = [] := by
        refine List.filter_eq_nil_iff.2 fun i hi => ?_
        have hopen := (h.wellKept hbase).installments i hi
        rw [h.schedules, List.mem_append, Option.mem_toList] at hopen
        rw [decide_eq_true_eq]
        rintro rfl
        exact hopen.elim hid hnew
      rw [hnone]
      exact .nil

/-- The new plan comes in front of those of its user, and those of other users stay. -/
lemma Grown.plansOf (h : Grown request base progress s) (userId : Identifier) :
    s.plansOf userId =
      (progress.plan?.toList.filter fun plan => plan.userId = userId) ++ base.plansOf userId := by
  rw [State.plansOf, h.plans, List.filter_append, List.reverse_append]
  refine congrArg (· ++ _) ?_
  cases progress.plan? with
  | none => rfl
  | some plan => by_cases huser : plan.userId = userId <;> simp [huser]

/-- What a creation puts in front of the listing of a user. -/
lemma Grown.viewsOf (h : Grown request base progress s) (hbase : base.WellKept)
    (userId : Identifier) : s.viewsOf userId =
      (progress.plan?.toList.filter fun plan => plan.userId = userId).map
        (Plan.view · progress.installments) ++ base.viewsOf userId := by
  have hold : (base.plansOf userId).map (fun plan => plan.view (s.installmentsOf plan.id)) =
      base.viewsOf userId := by
    refine List.map_congr_left fun plan hplan => ?_
    have hplan : plan ∈ base.plans := (List.mem_filter.1 (List.mem_reverse.1 hplan)).1
    rw [h.installmentsOf_of_mem (hbase.plans plan hplan)]
  rw [State.viewsOf, h.plansOf userId, List.map_append, hold]
  refine congrArg (· ++ _) (List.map_congr_left fun plan hplan => ?_)
  have hplan : progress.plan? = some plan := by
    simpa using (List.mem_filter.1 hplan).1
  rw [h.installmentsOf_planId hbase]
  cases progress with
  | stored own is => simpa [Progress.plan?, Progress.planId?] using congrArg (·.map Plan.id) hplan
  | nothing | claimed => exact nomatch hplan

/-- What a creation puts in front of the listing of its user is what it told. -/
lemma remembered_of_accepts {value : Except ServiceError PlanView}
    (haccepts : progress.Accepts request value) (hfollows : progress.Follows request)
    (userId : Identifier) :
    List.Forall₂ Served.Remembered
      ([⟨.create request, value⟩].filter (Served.storesPlanOf userId))
      ((progress.plan?.toList.filter fun plan => plan.userId = userId).map
        (Plan.view · progress.installments)) := by
  cases progress with
  | nothing =>
    -- The creation was refused, and its error says so.
    rcases value with e | view
    · have hrefuses : e.refusesPlan := haccepts
      simp [Served.storesPlanOf, hrefuses, Progress.plan?]
    · exact haccepts.elim
  | claimed id => exact haccepts.elim
  | stored plan is =>
    obtain ⟨hplan, front, hstart, hfulfils⟩ := hfollows
    have huser : plan.userId = request.userId := hplan.userId
    by_cases hown : request.userId = userId
    · -- A plan that was left is told by the view, or by how many installments are stored.
      rcases value with e | view
      · cases e with
        | noIdentifier id persisted source =>
          obtain ⟨rfl, rfl⟩ := haccepts
          have hfront : front = request.schedule.take is.length := by
            rw [← hfulfils.length_eq]
            exact List.prefix_iff_eq_take.1 hstart
          subst hfront
          simpa [Served.storesPlanOf, ServiceError.refusesPlan, Progress.plan?, huser, hown,
            Served.Remembered] using ⟨plan, is, rfl, rfl, hplan, rfl, hfulfils⟩
        | _ => exact haccepts.elim
      · obtain ⟨rfl, -⟩ := haccepts
        simp [Served.storesPlanOf, Progress.plan?, huser, hown, Served.Remembered,
          Progress.installments]
    · -- The plan of another user is not listed.
      have hother : ([⟨.create request, value⟩] : List Served).filter
          (Served.storesPlanOf userId) = [] := by
        cases value <;> simp [Served.storesPlanOf, hown]
      rw [hother]
      simp [Progress.plan?, huser, hown]

end Grown

/-! ## What every operation does to the listings -/

/-- One operation puts at most one view in front of the listing of a user, and only if it was a
creation of the user's that stored its plan. -/
theorem serve_viewsOf (sources : Sources) (o : Operation) (h : s.WellKept) :
    let next := s.serve sources o.program
    next.state.WellKept ∧ ∀ userId, ∃ new,
      List.Forall₂ Served.Remembered ([⟨o, next.value⟩].filter (Served.storesPlanOf userId)) new ∧
      next.state.viewsOf userId = new ++ s.viewsOf userId := by
  cases o with
  | create request =>
    obtain ⟨progress, haccepts, hgrown⟩ := create_grown sources request s
    refine ⟨hgrown.wellKept h, fun userId => ⟨_, ?_, hgrown.viewsOf h userId⟩⟩
    exact remembered_of_accepts haccepts hgrown.follows userId
  | list userId =>
    simp only [Operation.program, serve_list_state h.plans userId]
    exact ⟨h, fun _ => ⟨[], .nil, rfl⟩⟩
  | complete planId request =>
    simp only [Operation.program, serve_complete_state h.plans planId request]
    exact ⟨h, fun _ => ⟨[], .nil, rfl⟩⟩

/-- What is true after one operation is true after any number of them. -/
theorem serveAll_viewsOf (sources : Sources) (operations : List Operation) (h : s.WellKept) :
    let ended := serveAll (State.serve sources) operations s
    ended.2.WellKept ∧ ∀ userId, ∃ new,
      List.Forall₂ Served.Remembered (ended.1.filter (Served.storesPlanOf userId)).reverse new ∧
      ended.2.viewsOf userId = new ++ s.viewsOf userId := by
  induction operations generalizing s with
  | nil => exact ⟨h, fun _ => ⟨[], .nil, rfl⟩⟩
  | cons o operations ih =>
    obtain ⟨hnext, hfirst⟩ := serve_viewsOf sources o h
    obtain ⟨hended, hlater⟩ := ih hnext
    refine ⟨hended, fun userId => ?_⟩
    obtain ⟨first, hremembered, hviews⟩ := hfirst userId
    obtain ⟨later, hremembered', hviews'⟩ := hlater userId
    refine ⟨later ++ first, ?_, ?_⟩
    · rw [serveAll, ← List.singleton_append, List.filter_append, List.reverse_append]
      refine List.rel_append hremembered' ?_
      rw [← List.filter_reverse]
      exact hremembered
    · rw [serveAll, List.append_assoc, ← hviews]
      exact hviews'

/-- **A store in memory is an append-only log of creations.**  After any operations, whatever
identifiers were drawn, there is one view for each creation of the user's that stored its plan,
the latest first; a listing gives these views, or says that there are none, and nothing else; and
whichever operation comes next leaves them as they are, behind what it adds itself. -/
theorem list_is_log (sources : Sources) (operations : List Operation) (userId : Identifier) :
    let ended := serveAll (State.serve sources) operations {}
    ended.1.map Served.operation = operations ∧
      ∃ views, List.Forall₂ Served.Remembered
          (ended.1.filter (Served.storesPlanOf userId)).reverse views ∧
        ended.2.Lists sources userId views ∧
        ∀ o, let next := ended.2.serve sources o.program
          ∃ new, List.Forall₂ Served.Remembered
              ([⟨o, next.value⟩].filter (Served.storesPlanOf userId)) new ∧
            next.state.Lists sources userId (new ++ views) := by
  intro ended
  obtain ⟨hkept, hviews⟩ := serveAll_viewsOf sources operations wellKept_empty
  obtain ⟨views, hremembered, hviews⟩ := hviews userId
  have hempty : State.viewsOf {} userId = [] := rfl
  rw [hempty, List.append_nil] at hviews
  have hoperations := serveAll_operations (State.serve sources) operations {}
  refine ⟨hoperations, views, hremembered, ?_, fun o => ?_⟩
  · rw [← hviews]
    exact hkept.lists userId
  · obtain ⟨hnext, hstep⟩ := serve_viewsOf sources o hkept
    obtain ⟨new, hnew, hlisted⟩ := hstep userId
    refine ⟨new, hnew, ?_⟩
    rw [← hviews, ← hlisted]
    exact hnext.lists userId

end Memory

end PaymentPlans
