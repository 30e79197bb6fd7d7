/-
# Many clients at a time

However the sections of the operations of many clients come after one another, each operation
keeps to its contract, and the store keeps its books.  Everything that is safe about a store in
memory is read off these two: every plan that is shown has a schedule, no plan is there twice, a
schedule is what the one creation that claimed it has stored so far, and a creation that succeeded
is listed as it said.
-/
import PaymentPlans.Proofs.Memory.Books
import PaymentPlans.Proofs.Memory.Log

namespace PaymentPlans.Memory

variable {sources : Sources} {t : Traffic} {progress : Nat → Progress} {n : Nat}

/-! ## Operations under way -/

/-- An operation under way keeps to its contract, having come so far. -/
inductive Pending.Tracks (schedules : List Identifier) (progress : Progress) : Pending → Prop where
  /-- It creates a plan. -/
  | creates {request : PlanRequest} {rest : SectionProgram (Operation.create request).Outcome}
      (follows : progress.Follows request)
      (keeps : rest.Keeps (creating request) (Progress.Accepts request) progress) :
      Tracks schedules progress ⟨.create request, rest⟩
  /-- It only reads, and the plans that it was shown have schedules. -/
  | reads {o : Operation} {rest : SectionProgram o.Outcome} (known : List Identifier)
      (other : ∀ request, o ≠ .create request) (stored : progress = .nothing)
      (opened : ∀ id ∈ known, id ∈ schedules)
      (keeps : rest.Keeps reading (fun _ => FindsSchedules) known) :
      Tracks schedules progress ⟨o, rest⟩

lemma Pending.Tracks.mono {schedules schedules' : List Identifier} {progress : Progress}
    {p : Pending} (h : p.Tracks schedules progress) (hsub : ∀ id ∈ schedules, id ∈ schedules') :
    p.Tracks schedules' progress := by
  cases h with
  | creates follows keeps => exact .creates follows keeps
  | reads known other stored opened keeps =>
    exact .reads known other stored (fun id hid => hsub id (opened id hid)) keeps

lemma Pending.Tracks.start (schedules : List Identifier) (o : Operation) :
    Pending.Tracks schedules .nothing ⟨o, o.program.refine respond⟩ := by
  cases o with
  | create request => exact .creates trivial keeps_create
  | list userId => exact .reads [] nofun rfl nofun (keeps_list userId)
  | complete planId request => exact .reads [] nofun rfl nofun (keeps_complete planId request)

lemma Pending.Tracks.note {schedules : List Identifier} {progress : Progress} {o : Operation}
    {e : Event} {next : SectionProgram o.Outcome}
    (h : Pending.Tracks schedules progress ⟨o, .note e next⟩) :
    Pending.Tracks schedules progress ⟨o, next⟩ := by
  cases h with
  | creates follows keeps => exact .creates follows keeps
  | reads known other stored opened keeps => exact .reads known other stored opened keeps

/-! ## The whole traffic -/

namespace Traffic

/-- Installments are the first ones of the schedule that the one creation that claimed an
identifier was asked for, and so they are in the order in which they are due. -/
def Scheduled (t : Traffic) (id : Identifier) (installments : List Installment) : Prop :=
  (∃ n request, t.operation? n = some (.create request) ∧ claimants id t.executed = [n] ∧
    StartsSchedule request id installments) ∧
  installments.Pairwise fun a b => a.dueAt.notAfter b.dueAt

/-- The operations have come so far. -/
structure Tracked (t : Traffic) (progress : Nat → Progress) : Prop where
  books : Books t.executed t.state progress
  pending : ∀ n (p : Pending), t.pending[n]? = some p → p.Tracks t.state.schedules (progress n)
  later : ∀ n, t.pending[n]? = none → progress n = .nothing
  /-- Whichever schedule was read was the first installments of one creation. -/
  reads : ∀ n id answer, ⟨n, .scheduleOf id, answer⟩ ∈ t.executed →
    ∃ installments, answer = some installments ∧ ∃ m request,
      (progress m).planId? = some id ∧ t.operation? m = some (.create request) ∧
        StartsSchedule request id installments

lemma tracked_empty : Tracked {} fun _ => .nothing where
  books := Books.empty
  pending := by simp
  later := fun _ _ => rfl
  reads := by simp

lemma operation?_set {o : Operation} {rest rest' : SectionProgram o.Outcome}
    (h : t.pending[n]? = some ⟨o, rest⟩) (state : State) (executed : List Executed) (m : Nat) :
    Traffic.operation? ⟨state, t.pending.set n ⟨o, rest'⟩, executed⟩ m = t.operation? m := by
  by_cases hmn : n = m
  · subst hmn
    have hlt : n < t.pending.length := (List.getElem?_eq_some_iff.1 h).1
    rw [operation?, operation?, h, List.getElem?_set_self hlt]
    rfl
  · simp [operation?, List.getElem?_set_ne hmn]

/-- Whoever claimed an identifier is a creation, and stored what it was asked for. -/
lemma Tracked.owner (h : t.Tracked progress) {m : Nat} {id : Identifier}
    (hm : (progress m).planId? = some id) :
    ∃ request, t.operation? m = some (.create request) ∧ (progress m).Follows request := by
  cases hp : t.pending[m]? with
  | none =>
    rw [h.later m hp] at hm
    exact nomatch hm
  | some p =>
    cases h.pending m p hp with
    | creates follows keeps => exact ⟨_, by simp [operation?, hp], follows⟩
    | reads known other stored opened keeps =>
      rw [stored] at hm
      exact nomatch hm

/-- The schedule under an identifier is what was stored of it so far. -/
lemma Tracked.startsSchedule (h : t.Tracked progress) {id : Identifier}
    (hid : id ∈ t.state.schedules) : ∃ m request, (progress m).planId? = some id ∧
      t.operation? m = some (.create request) ∧
        StartsSchedule request id (t.state.installmentsOf id) := by
  obtain ⟨m, hm⟩ := h.books.opened id hid
  obtain ⟨request, hrequest, hfollows⟩ := h.owner hm
  refine ⟨m, request, hm, hrequest, ?_⟩
  rw [h.books.installments m id hm]
  exact hfollows.startsSchedule hm

/-! ## One step -/

/-- An operation goes on: if the books are kept and it keeps to its contract, the others do not
notice. -/
lemma Tracked.goOn (h : t.Tracked progress) {o : Operation} {rest : SectionProgram o.Outcome}
    (hp : t.pending[n]? = some ⟨o, rest⟩) {new : Progress} {state : State}
    {executed : List Executed} (rest' : SectionProgram o.Outcome)
    (books : Books executed state (Function.update progress n new))
    (opened : ∀ id ∈ t.state.schedules, id ∈ state.schedules)
    (tracks : Pending.Tracks state.schedules new ⟨o, rest'⟩)
    (claimed : ∀ id, (progress n).planId? = some id → new.planId? = some id)
    (reads : ∀ m id answer, ⟨m, .scheduleOf id, answer⟩ ∈ executed →
      ⟨m, .scheduleOf id, answer⟩ ∈ t.executed ∨
        id ∈ t.state.schedules ∧ answer = some (t.state.installmentsOf id)) :
    Tracked ⟨state, t.pending.set n ⟨o, rest'⟩, executed⟩ (Function.update progress n new) := by
  have hplanId : ∀ m id, (progress m).planId? = some id →
      (Function.update progress n new m).planId? = some id := by
    intro m id hm
    by_cases hmn : m = n
    · subst hmn
      rw [Function.update_self]
      exact claimed id hm
    · rwa [Function.update_of_ne hmn]
  refine ⟨books, ?_, ?_, ?_⟩
  · -- The other operations are where they were.
    intro m p hm
    by_cases hmn : m = n
    · subst hmn
      have hlt : m < t.pending.length := (List.getElem?_eq_some_iff.1 hp).1
      rw [List.getElem?_set_self hlt] at hm
      obtain rfl := Option.some.inj hm
      rw [Function.update_self]
      exact tracks
    · rw [List.getElem?_set_ne (Ne.symm hmn)] at hm
      rw [Function.update_of_ne hmn]
      exact (h.pending m p hm).mono opened
  · -- The one that goes on is not one that has yet to start.
    intro m hm
    have hmn : m ≠ n := by
      rintro rfl
      have hlt : m < t.pending.length := (List.getElem?_eq_some_iff.1 hp).1
      rw [List.getElem?_set_self hlt] at hm
      exact nomatch hm
    rw [List.getElem?_set_ne (Ne.symm hmn)] at hm
    rw [Function.update_of_ne hmn]
    exact h.later m hm
  · -- What was read before was read of the same creation, and what is read now is of the store.
    intro k id answer hk
    rcases reads k id answer hk with hk | ⟨hid, rfl⟩
    · obtain ⟨is, hanswer, m, request, hm, hrequest, hstarts⟩ := h.reads k id answer hk
      exact ⟨is, hanswer, m, request, hplanId m id hm, by rwa [operation?_set hp], hstarts⟩
    · obtain ⟨m, request, hm, hrequest, hstarts⟩ := h.startsSchedule hid
      exact ⟨_, rfl, m, request, hplanId m id hm, by rwa [operation?_set hp], hstarts⟩

/-- An operation starts, and has not come anywhere yet. -/
lemma Tracked.start (h : t.Tracked progress) (o : Operation) :
    Tracked { t with pending := t.pending ++ [⟨o, o.program.refine respond⟩] } progress := by
  refine ⟨h.books, ?_, ?_, ?_⟩
  · intro m p hm
    by_cases hlt : m < t.pending.length
    · rw [List.getElem?_append_left hlt] at hm
      exact h.pending m p hm
    · rw [List.getElem?_append_right (Nat.le_of_not_lt hlt)] at hm
      obtain rfl := List.mem_singleton.1 (List.mem_of_getElem? hm)
      rw [h.later m (List.getElem?_eq_none (Nat.le_of_not_lt hlt))]
      exact .start t.state.schedules o
  · intro m hm
    have hle := List.getElem?_eq_none_iff.1 hm
    rw [List.length_append] at hle
    exact h.later m (List.getElem?_eq_none (Nat.le_of_add_right_le hle))
  · -- The creation that was read of has started already.
    intro k id answer hk
    obtain ⟨is, hanswer, m, request, hm, hrequest, hstarts⟩ := h.reads k id answer hk
    refine ⟨is, hanswer, m, request, hm, ?_, hstarts⟩
    have hlt : m < t.pending.length := by
      by_contra hlt
      rw [operation?, List.getElem?_eq_none (Nat.le_of_not_lt hlt)] at hrequest
      exact nomatch hrequest
    rw [operation?, List.getElem?_append_left hlt]
    exact hrequest

lemma Tracked.note (h : t.Tracked progress) {o : Operation} {e : Event}
    {next : SectionProgram o.Outcome} (hp : t.pending[n]? = some ⟨o, .note e next⟩) :
    Tracked { t with pending := t.pending.set n ⟨o, next⟩ } progress := by
  rw [← Function.update_eq_self n progress]
  refine h.goOn hp next ?_ (fun _ => id) (h.pending n _ hp).note (fun _ => id)
    fun _ _ _ => Or.inl
  rw [Function.update_eq_self]
  exact h.books

lemma execute_schedules (s : State) (c : Section) :
    ∀ id ∈ s.schedules, id ∈ (s.execute sources c).2.schedules := by
  intro id hid
  cases c with
  | openSchedule other =>
    by_cases hother : other ∈ s.schedules <;> simp [State.execute, hother, hid]
  | addInstallment i => by_cases hi : i.planId ∈ s.schedules <;> simp [State.execute, hi, hid]
  | _ => exact hid

/-- An operation executes its next section.  A creation may not read, and reading changes neither
the store nor how far anyone has come. -/
lemma Tracked.execute (h : t.Tracked progress) {o : Operation} {c : Section}
    {next : c.Answer → SectionProgram o.Outcome} (hp : t.pending[n]? = some ⟨o, .call c next⟩) :
    ∃ progress', Tracked ⟨(t.state.execute sources c).2,
      t.pending.set n ⟨o, next (t.state.execute sources c).1⟩,
      t.executed ++ [⟨n, c, (t.state.execute sources c).1⟩]⟩ progress' := by
  have htracks := h.pending n _ hp
  cases htracks with
  | @creates request _ follows keeps =>
    obtain ⟨hallowed, hnext⟩ := keeps
    refine ⟨_, h.goOn hp _ (h.books.execute follows hallowed) (execute_schedules _ c)
      (.creates (follows.advance hallowed _) (hnext _ trivial))
      (fun id hid => hallowed.planId? hid _) ?_⟩
    intro m id answer hmem
    refine (List.mem_append.1 hmem).imp_right fun hnew => ?_
    cases List.mem_singleton.1 hnew
    exact (Progress.not_allows_scheduleOf request (progress n) id hallowed).elim
  | reads known other stored opened keeps =>
    obtain ⟨hallowed, hnext⟩ := keeps
    obtain ⟨hpromised, hstate, hknown⟩ := reading_execute sources hallowed
      (fun plan hplan => h.books.mem_schedules hplan) opened
    refine ⟨Function.update progress n (progress n), ?_⟩
    rw [hstate]
    refine h.goOn hp _ ?_ (fun _ => id) (.reads _ other stored hknown (hnext _ hpromised))
      (fun _ => id) ?_
    · rw [Function.update_eq_self]
      refine h.books.idle t.state _ (fun id => ?_) rfl rfl rfl
      cases c with
      | plansOf | scheduleOf => rfl
      | _ => exact hallowed.elim
    · intro m id answer hmem
      refine (List.mem_append.1 hmem).imp_right fun hnew => ?_
      cases List.mem_singleton.1 hnew
      have hopen : id ∈ t.state.schedules := opened id hallowed
      exact ⟨hopen, if_pos hopen⟩

/-- Whatever happens next, the operations have come some way. -/
theorem Tracked.move (h : t.Tracked progress) (sources : Sources) (m : Move) :
    ∃ progress', (t.move sources m).Tracked progress' := by
  cases m with
  | start o =>
    exact ⟨progress, h.start o⟩
  | go n =>
    rw [Traffic.move]
    split
    · exact ⟨progress, h⟩
    · exact ⟨progress, h⟩
    · exact ⟨progress, h.note ‹_›⟩
    · exact h.execute ‹_›

theorem tracked_after (sources : Sources) (moves : List Move) :
    ∃ progress, (after sources moves).Tracked progress := by
  suffices h : ∀ (t : Traffic) progress, t.Tracked progress →
      ∃ progress', Tracked (moves.foldl (move sources) t) progress' from
    h {} _ tracked_empty
  induction moves with
  | nil => exact fun t progress h => ⟨progress, h⟩
  | cons m moves ih =>
    intro t progress h
    obtain ⟨progress', h'⟩ := h.move sources m
    exact ih _ progress' h'

/-! ## What is safe -/

/-- What is safe when many clients use a store at a time. -/
structure Safe (sources : Sources) (t : Traffic) : Prop where
  /-- The plans that a user is shown have schedules. -/
  opened : ∀ userId, ∀ plan ∈ t.state.plansOf userId, plan.id ∈ t.state.schedules
  /-- No operation ends because the installments of a plan could not be listed. -/
  found : ∀ p ∈ t.pending, ∀ planId e, p.outcome? ≠ some (.error (.installmentsNotListed planId e))
  /-- No two plans, of whichever users, have the same identifier. -/
  once : (t.state.plans.map Plan.id).Nodup
  /-- A schedule is what is stored so far of the one that the creation that claimed it was asked
  for. -/
  scheduled : ∀ id ∈ t.state.schedules, t.Scheduled id (t.state.installmentsOf id)
  /-- Whoever read a schedule was given such installments. -/
  read : ∀ n id answer, ⟨n, .scheduleOf id, answer⟩ ∈ t.executed →
    ∃ installments, answer = some installments ∧ t.Scheduled id installments
  /-- A creation that succeeded stored all that it was asked for, and what it gave is listed for
  its user, once. -/
  created : ∀ (n : Nat) request view, t.pending[n]? = some ⟨.create request, .done (.ok view)⟩ →
    (∃ plan installments, view = Plan.view plan installments ∧ plan.Fulfils request ∧
      List.Forall₂ (fun asked i => i.Fulfils plan.id asked) request.schedule installments) ∧
    ∃ views, t.state.Lists sources request.userId views ∧
      views.filter (fun listed => listed.id = view.id) = [view]

lemma Tracked.found (h : t.Tracked progress) {p : Pending} (hp : p ∈ t.pending)
    (planId : Identifier) (e : RepositoryError) :
    p.outcome? ≠ some (.error (.installmentsNotListed planId e)) := by
  obtain ⟨n, hn⟩ := List.getElem?_of_mem hp
  rcases p with ⟨o, rest⟩
  intro houtcome
  cases rest with
  | call | note => exact nomatch houtcome
  | done outcome =>
    obtain rfl : outcome = .error (.installmentsNotListed planId e) := Option.some.inj houtcome
    cases h.pending n _ hn with
    | creates follows keeps =>
      cases hprogress : progress n <;> exact nomatch (hprogress ▸ keeps)
    | reads known other stored opened keeps => exact keeps planId e rfl

lemma Tracked.scheduled (h : t.Tracked progress) {id : Identifier} {m : Nat}
    {request : PlanRequest} {installments : List Installment}
    (hm : (progress m).planId? = some id) (hrequest : t.operation? m = some (.create request))
    (hstarts : StartsSchedule request id installments) : t.Scheduled id installments :=
  ⟨⟨m, request, hrequest, h.books.claimed m id hm, hstarts⟩, hstarts.ascending⟩

/-- A plan is listed for its user once. -/
lemma Tracked.filter_viewsOf (h : t.Tracked progress) {plan : Plan} (hplan : plan ∈ t.state.plans) :
    (t.state.viewsOf plan.userId).filter (fun listed => listed.id = plan.id) =
      [plan.view (t.state.installmentsOf plan.id)] := by
  have hlisted : plan ∈ t.state.plansOf plan.userId :=
    List.mem_reverse.2 (List.mem_filter.2 ⟨hplan, decide_eq_true rfl⟩)
  have hnodup : ((t.state.plansOf plan.userId).map Plan.id).Nodup := by
    rw [State.plansOf, List.map_reverse, List.nodup_reverse]
    exact h.books.nodup.sublist (List.filter_sublist.map Plan.id)
  have honly : (t.state.plansOf plan.userId).filter (fun other => other.id = plan.id) = [plan] := by
    have hsame : ∀ other ∈ t.state.plansOf plan.userId,
        decide (other.id = plan.id) = (other == plan) := by
      intro other hother
      have hinj : other.id = plan.id ↔ other = plan :=
        ⟨List.inj_on_of_nodup_map hnodup hother hlisted, congrArg Plan.id⟩
      simp [hinj, beq_eq_decide]
    rw [List.filter_congr hsame, List.filter_beq, List.count_eq_one_of_mem hnodup.of_map hlisted]
    rfl
  rw [State.viewsOf, List.filter_map]
  exact congrArg (List.map _) honly

lemma Tracked.created (h : t.Tracked progress) (hkept : t.state.WellKept) {request : PlanRequest}
    {view : PlanView} (hn : t.pending[n]? = some ⟨.create request, .done (.ok view)⟩) :
    (∃ plan installments, view = Plan.view plan installments ∧ plan.Fulfils request ∧
      List.Forall₂ (fun asked i => i.Fulfils plan.id asked) request.schedule installments) ∧
    ∃ views, t.state.Lists sources request.userId views ∧
      views.filter (fun listed => listed.id = view.id) = [view] := by
  cases h.pending n _ hn with
  | reads known other stored opened keeps => exact absurd rfl (other request)
  | creates follows keeps =>
    cases hprogress : progress n with
    | nothing | claimed => exact nomatch (hprogress ▸ keeps)
    | stored plan is =>
      rw [hprogress] at follows keeps
      obtain ⟨rfl, hall⟩ := keeps
      have hplan : plan ∈ t.state.plans := (h.books.plans plan).2 ⟨n, by rw [hprogress]; rfl⟩
      have his : t.state.installmentsOf plan.id = is := by
        rw [h.books.installments n plan.id (by rw [hprogress]; rfl), hprogress]
        rfl
      have honce := h.filter_viewsOf hplan
      rw [his, follows.1.userId] at honce
      exact ⟨⟨plan, is, rfl, follows.1, hall⟩, _, hkept.lists request.userId, honce⟩

/-- **A store in memory is safe for many clients at a time**, whatever identifiers are drawn and
however the sections of their operations come after one another. -/
theorem traffic_safe (sources : Sources) (moves : List Move) :
    (after sources moves).Safe sources := by
  obtain ⟨progress, h⟩ := tracked_after sources moves
  have hkept : (after sources moves).state.WellKept :=
    ⟨fun plan => h.books.mem_schedules, h.books.belongs⟩
  refine ⟨?_, fun p hp => h.found hp, h.books.nodup, ?_, ?_, ?_⟩
  · intro userId plan hplan
    exact hkept.plans plan (List.mem_filter.1 (List.mem_reverse.1 hplan)).1
  · intro id hid
    obtain ⟨m, request, hm, hrequest, hstarts⟩ := h.startsSchedule hid
    exact h.scheduled hm hrequest hstarts
  · intro n id answer hn
    obtain ⟨is, hanswer, m, request, hm, hrequest, hstarts⟩ := h.reads n id answer hn
    exact ⟨is, hanswer, h.scheduled hm hrequest hstarts⟩
  · intro n request view hn
    exact h.created hkept hn

end Traffic

end PaymentPlans.Memory
