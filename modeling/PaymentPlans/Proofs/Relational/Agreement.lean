/-
# A database in place of a store in memory

Operations that are served one after the other are served alike by a store in memory and by the
two tables, as long as what fills the columns is as it should be.  The tables mirror the store:
they hold the same plans and installments in the same order of insertion.

There is one exception.  A store shows a schedule in the order of insertion, which is that of the
due dates as they were asked for; the tables show it in the order of the due dates as they keep
them.  A leap second is kept as a part of the minute after it, and so the two orders can differ.
-/
import PaymentPlans.Proofs.Alike
import PaymentPlans.Proofs.Creation
import PaymentPlans.Proofs.Memory.Order
import PaymentPlans.Proofs.Relational.Calls
import PaymentPlans.Proofs.Relational.Order

namespace PaymentPlans.Relational

open Memory (State)
open Memory.Sources (unfailing)

/-- Identifiers are fresh, and each insertion is later than those before it, for so many of
them. -/
structure Defaults.Proper (defaults : Defaults) (drawn ticks : Nat) : Prop where
  identifier : ∀ j < drawn, ∀ i < j, defaults.identifier i ≠ defaults.identifier j
  time : ∀ j < ticks, ∀ i < j, (defaults.time i).rank < (defaults.time j).rank

instance (defaults : Defaults) (drawn ticks : Nat) : Decidable (defaults.Proper drawn ticks) :=
  decidable_of_iff
    ((∀ j < drawn, ∀ i < j, defaults.identifier i ≠ defaults.identifier j) ∧
      ∀ j < ticks, ∀ i < j, (defaults.time i).rank < (defaults.time j).rank)
    ⟨fun h => ⟨h.1, h.2⟩, fun h => ⟨h.1, h.2⟩⟩

lemma Defaults.Proper.mono {defaults : Defaults} {drawn drawn' ticks ticks' : Nat}
    (h : defaults.Proper drawn ticks) (hdrawn : drawn' ≤ drawn) (hticks : ticks' ≤ ticks) :
    defaults.Proper drawn' ticks' where
  identifier j hj := h.identifier j (by omega)
  time j hj := h.time j (by omega)

/-- The rows of a plan in the order of insertion. -/
def Tables.rowsOf (t : Tables) (planId : Identifier) : List Installment :=
  t.installments.filter fun i => i.planId = planId

/-- Tables mirror a store, and their columns were filled as they should be. -/
structure Mirrors (defaults : Defaults) (s : State) (t : Tables) : Prop where
  drawn : s.drawn = t.drawn
  schedules : ∀ id, id ∈ s.schedules ↔ id ∈ t.plans.map Plan.id
  plans : s.plans.map Plan.timeless = t.plans.map Plan.timeless
  installments : s.installments.map (fun i => i.kept.timeless) =
    t.installments.map Installment.timeless
  planTimes : Dated defaults.time t.ticks (t.plans.map Plan.createdAt)
  installmentTimes : Dated defaults.time t.ticks (t.installments.map Installment.createdAt)
  /-- The identifiers of the installments were drawn. -/
  identifiers : ∀ i ∈ t.installments, ∃ n < t.drawn, i.id = defaults.identifier n

variable {defaults : Defaults} {time : Nat → Instant} {s : State} {t : Tables}

lemma mirrors_empty (defaults : Defaults) : Mirrors defaults {} {} where
  drawn := rfl
  schedules := by simp
  plans := rfl
  installments := rfl
  planTimes := .nil _ _
  installmentTimes := .nil _ _
  identifiers := by simp

lemma map_eq_map_iff {α β γ : Type} {R : α → β → Prop} {P : α → Prop} {f : α → γ} {g : β → γ}
    {l : List α} {l' : List β} (h : List.Forall₂ R l l')
    (hiff : ∀ a b, R a b → (f a = g b ↔ P a)) : l.map f = l'.map g ↔ ∀ a ∈ l, P a := by
  induction h with
  | nil => simp
  | cons hab _ ih => simp [hiff _ _ hab, ih]

namespace Mirrors

variable (h : Mirrors defaults s t)
include h

/-! ## Reading -/

lemma ids : s.plans.map Plan.id = t.plans.map Plan.id := by
  have hids := congrArg (List.map Plan.id) h.plans
  rw [List.map_map, List.map_map] at hids
  exact hids

lemma opened : ∀ plan ∈ s.plans, plan.id ∈ s.schedules := by
  intro plan hplan
  rw [h.schedules, ← h.ids]
  exact List.mem_map_of_mem hplan

/-- The plans of a user are shown alike: the tables show the newest first, which is the reverse
of the order of insertion. -/
lemma plansOf (userId : Identifier) :
    (s.plansOf userId).map Plan.timeless = (t.plansOf userId).map Plan.timeless := by
  have hrising : (t.plans.filter fun plan => plan.userId = userId).Pairwise
      fun a b => a.createdAt.rank < b.createdAt.rank :=
    (List.pairwise_map.1 h.planTimes.rising).sublist List.filter_sublist
  have hfilter : ∀ plans : List Plan,
      (plans.filter fun plan => plan.userId = userId).map Plan.timeless =
        (plans.map Plan.timeless).filter fun plan => plan.userId = userId := by
    intro plans
    rw [List.filter_map]
    rfl
  rw [Tables.plansOf, mergeSort_notOlder hrising, State.plansOf, List.map_reverse,
    List.map_reverse, hfilter, hfilter, h.plans]

lemma plansOf_related (userId : Identifier) :
    List.Forall₂ (fun plan plan' : Plan => plan.timeless = plan'.timeless)
      (s.plansOf userId) (t.plansOf userId) := by
  have hsame : List.Forall₂ (· = ·) ((s.plansOf userId).map Plan.timeless)
      ((t.plansOf userId).map Plan.timeless) := by
    rw [h.plansOf userId]
    exact List.forall₂_refl _
  exact List.forall₂_map_right_iff.1 (List.forall₂_map_left_iff.1 hsame)

/-- The rows of a plan are its installments. -/
lemma rowsOf (planId : Identifier) :
    (s.installmentsOf planId).map (fun i => i.kept.timeless) =
      (t.rowsOf planId).map Installment.timeless := by
  have hfilter : (s.installments.filter fun i => i.planId = planId).map (fun i => i.kept.timeless) =
      (s.installments.map (fun i => i.kept.timeless)).filter fun i => i.planId = planId := by
    rw [List.filter_map]
    rfl
  have hfilter' : (t.installments.filter fun i => i.planId = planId).map Installment.timeless =
      (t.installments.map Installment.timeless).filter fun i => i.planId = planId := by
    rw [List.filter_map]
    rfl
  rw [State.installmentsOf, Tables.rowsOf, hfilter, hfilter', h.installments]

lemma dueAt_rowsOf (planId : Identifier) :
    (s.installmentsOf planId).map (fun i => i.dueAt.kept) =
      (t.rowsOf planId).map Installment.dueAt := by
  have hdue := congrArg (List.map Installment.dueAt) (h.rowsOf planId)
  rw [List.map_map, List.map_map] at hdue
  exact hdue

/-- A schedule keeps its order exactly when the rows of its plan were inserted in the order in
which they are due. -/
lemma keepsOrder_iff (plan : Plan) : (plan.view (s.installmentsOf plan.id)).KeepsOrder ↔
    (t.rowsOf plan.id).Pairwise fun a b => a.dueAt.notAfter b.dueAt := by
  have hmap : ((s.installmentsOf plan.id).map fun i => i.dueAt.kept).Pairwise
        (fun a b => a.notAfter b) ↔
      ((t.rowsOf plan.id).map Installment.dueAt).Pairwise fun a b => a.notAfter b := by
    rw [h.dueAt_rowsOf plan.id]
  rw [keepsOrder_view, List.pairwise_map]
  rwa [List.pairwise_map, List.pairwise_map] at hmap

/-- What the tables show of a schedule is in the order of the due dates as they keep them. -/
lemma keepsOrder_of_alike {plan plan' : Plan} {shown shown' : List Installment}
    (hshown : shown.map Installment.dueAt = (s.installmentsOf plan.id).map Installment.dueAt)
    (hshown' : shown'.map Installment.dueAt = (t.installmentsOf plan.id).map Installment.dueAt)
    (halike : (plan.view shown).kept.timeless = (plan'.view shown').timeless) :
    (plan.view (s.installmentsOf plan.id)).KeepsOrder := by
  rw [kept_view, timeless_view, timeless_view] at halike
  have hkept : shown.map (fun i => i.dueAt.kept) = shown'.map Installment.dueAt := by
    have hdue := congrArg (fun view => view.installments.map InstallmentView.dueAt) halike
    simp only [Plan.view, List.map_map] at hdue
    exact hdue
  have hstored : shown.map (fun i => i.dueAt.kept) = (t.rowsOf plan.id).map Installment.dueAt := by
    have hmap := congrArg (List.map Instant.kept) hshown
    rw [List.map_map, List.map_map] at hmap
    exact hmap.trans (h.dueAt_rowsOf plan.id)
  have hascending := mergeSort_notDueAfter_ascending (t.rowsOf plan.id)
  rw [h.keepsOrder_iff plan, ← List.pairwise_map (f := Installment.dueAt)
    (R := fun a b => a.notAfter b), ← hstored, hkept, hshown', List.pairwise_map]
  exact hascending

/-- The tables show a schedule that keeps its order as it was inserted: rows that are due at the
same instant are told apart by their age. -/
lemma installmentsOf_of_keepsOrder {plan : Plan}
    (hkeeps : (plan.view (s.installmentsOf plan.id)).KeepsOrder) :
    (s.installmentsOf plan.id).map (fun i => i.kept.timeless) =
      (t.installmentsOf plan.id).map Installment.timeless := by
  have hrising : (t.rowsOf plan.id).Pairwise fun a b => a.createdAt.rank < b.createdAt.rank :=
    (List.pairwise_map.1 h.installmentTimes.rising).sublist List.filter_sublist
  have hsorted : t.installmentsOf plan.id = t.rowsOf plan.id :=
    mergeSort_notDueAfter hrising ((h.keepsOrder_iff plan).1 hkeeps)
  rw [hsorted, h.rowsOf plan.id]

/-- A plan is listed alike exactly when its schedule keeps its order. -/
lemma view_alike_iff {plan plan' : Plan} (hplan : plan.timeless = plan'.timeless) :
    (plan.view (s.installmentsOf plan.id)).kept.timeless =
        (plan'.view (t.installmentsOf plan'.id)).timeless ↔
      (plan.view (s.installmentsOf plan.id)).KeepsOrder := by
  have hid : plan'.id = plan.id := (congrArg Plan.id hplan).symm
  rw [hid]
  constructor
  · exact h.keepsOrder_of_alike rfl rfl
  · intro hkeeps
    have hsame := h.installmentsOf_of_keepsOrder hkeeps
    rw [kept_view, timeless_view, timeless_view, hplan, List.map_map, ← hsame]
    rfl

/-- A plan is completed alike exactly when its schedule keeps its order. -/
lemma paid_alike_iff {plan plan' : Plan} (hplan : plan.timeless = plan'.timeless) :
    (plan.view (Service.payFirst (s.installmentsOf plan.id))).kept.timeless =
        (plan'.view (Service.payFirst (t.installmentsOf plan'.id))).timeless ↔
      (plan.view (Service.payFirst (s.installmentsOf plan.id))).KeepsOrder := by
  have hid : plan'.id = plan.id := (congrArg Plan.id hplan).symm
  have hpaid : (plan.view (Service.payFirst (s.installmentsOf plan.id))).KeepsOrder ↔
      (plan.view (s.installmentsOf plan.id)).KeepsOrder :=
    keepsOrder_congr plan (Service.payFirst_dueAt _)
  rw [hid, hpaid]
  constructor
  · exact h.keepsOrder_of_alike (Service.payFirst_dueAt _) (Service.payFirst_dueAt _)
  · intro hkeeps
    have hsame := h.installmentsOf_of_keepsOrder hkeeps
    have hmemory := Service.payFirst_map (f := fun i => i.kept.timeless) (fun _ => rfl)
      (s.installmentsOf plan.id)
    have htables := Service.payFirst_map (f := Installment.timeless) (fun _ => rfl)
      (t.installmentsOf plan.id)
    rw [kept_view, timeless_view, timeless_view, hplan, List.map_map, htables, ← hsame, ← hmemory]
    rfl

/-! ## Writing -/

/-- The tables refuse to store a plan when the store does, and otherwise both store it. -/
lemma createPlan (time : Nat → Instant) (new : NewPlan) {amount : Amount}
    (hamount : Amount.ofText new.amount = .ok amount)
    (hproper : defaults.Proper t.drawn (t.ticks + 1)) :
    let ours := State.answer (unfailing defaults.identifier time) (.createPlan new) s
    let theirs := Tables.answer defaults (.createPlan new) t
    Mirrors defaults ours.2 theirs.2 ∧
      ((∃ causes causes', ours.1 = .error (.queryFailed "insert_payment_plan" causes) ∧
          theirs.1 = .error (.queryFailed "insert_payment_plan" causes')) ∨
        ∃ plan plan', ours.1 = .ok plan ∧ theirs.1 = .ok plan' ∧ plan.timeless = plan'.timeless ∧
          plan.id ∈ ours.2.schedules) := by
  intro ours theirs
  have hours : ours = _ := Memory.answer_createPlan hamount (Memory.chosen_unfailing new.id)
  have htheirs : theirs = _ := answer_createPlan hamount
  have hdrawn : t.drawn ≤ if new.id.isSome then t.drawn else t.drawn + 1 := by
    split <;> omega
  have hidentifiers : ∀ i ∈ t.installments,
      ∃ n < (if new.id.isSome then t.drawn else t.drawn + 1), i.id = defaults.identifier n := by
    intro i hi
    obtain ⟨n, hn, hid⟩ := h.identifiers i hi
    exact ⟨n, by omega, hid⟩
  have htaken := h.schedules (new.id.getD (defaults.identifier t.drawn))
  rw [hours, htheirs]
  simp only [State.drawnAfter, h.drawn]
  by_cases hopen : new.id.getD (defaults.identifier t.drawn) ∈ s.schedules
  · -- The identifier is taken on both sides; an attempt is counted all the same.
    simp only [hopen, htaken.1 hopen, if_true]
    refine ⟨⟨rfl, h.schedules, h.plans, h.installments, h.planTimes.succ, h.installmentTimes.succ,
      hidentifiers⟩, Or.inl ⟨_, _, rfl, rfl⟩⟩
  · -- The plan is stored on both sides, as the newest one.
    have hfree : new.id.getD (defaults.identifier t.drawn) ∉ t.plans.map Plan.id :=
      fun hmem => hopen (htaken.2 hmem)
    simp only [hopen, hfree, if_false]
    refine ⟨⟨rfl, ?_, ?_, h.installments, ?_, h.installmentTimes.succ, hidentifiers⟩,
      Or.inr ⟨_, _, rfl, rfl, rfl, List.mem_concat_self⟩⟩
    · intro id
      rw [List.mem_append, h.schedules id, List.map_append, List.mem_append]
      rfl
    · rw [List.map_append, List.map_append, h.plans]
      rfl
    · rw [List.map_append]
      exact h.planTimes.concat fun n hn => hproper.time t.ticks (by omega) n hn

/-- The tables store an installment of a plan that is there when the store does. -/
lemma createInstallment (time : Nat → Instant) (new : NewInstallment) {amount : Amount}
    (hamount : Amount.ofText new.amount = .ok amount) (hopen : new.planId ∈ s.schedules)
    (hproper : defaults.Proper (t.drawn + 1) (t.ticks + 1)) :
    ∃ i i' s' t', State.answer (unfailing defaults.identifier time) (.createInstallment new) s =
        (.ok i, s') ∧
      Tables.answer defaults (.createInstallment new) t = (.ok i', t') ∧
      i.kept.timeless = i'.timeless ∧ s'.schedules = s.schedules ∧ Mirrors defaults s' t' := by
  -- All rows have identifiers that were drawn before.
  have hfresh : defaults.identifier t.drawn ∉ t.installments.map Installment.id := by
    intro hmem
    obtain ⟨i, hi, hid⟩ := List.mem_map.1 hmem
    obtain ⟨n, hn, hdrawn⟩ := h.identifiers i hi
    exact hproper.identifier t.drawn (by omega) n hn (hdrawn.symm.trans hid)
  have hdrawn : (unfailing defaults.identifier time).identifier s.drawn =
      .ok (defaults.identifier s.drawn) := rfl
  have hstored := Memory.answer_createInstallment hamount hdrawn
  simp only [if_pos hopen] at hstored
  refine ⟨_, _, _, _, hstored,
    answer_createInstallment hamount hfresh ((h.schedules _).1 hopen), ?_, rfl, ?_⟩
  · simp only [h.drawn]
    rfl
  · refine ⟨by simp only [h.drawn], h.schedules, h.plans, ?_, h.planTimes.succ, ?_, ?_⟩
    · rw [List.map_append, List.map_append, h.installments, h.drawn]
      rfl
    · rw [List.map_append]
      exact h.installmentTimes.concat fun n hn => hproper.time t.ticks (by omega) n hn
    · intro i hi
      rcases List.mem_append.1 hi with hi | hi
      · obtain ⟨n, hn, hid⟩ := h.identifiers i hi
        exact ⟨n, Nat.lt_succ_of_lt hn, hid⟩
      · obtain rfl := List.mem_singleton.1 hi
        exact ⟨t.drawn, Nat.lt_succ_self _, rfl⟩

/-- The installments of a schedule are stored on both sides, one after the other. -/
lemma createInstallments {planId : Identifier} {requested : Nat}
    {created created' : List Installment} {rest : List InstallmentRequest}
    (hopen : planId ∈ s.schedules)
    (hamounts : ∀ asked ∈ rest, (Amount.ofText asked.amount).isOk)
    (hcreated : created.map (fun i => i.kept.timeless) = created'.map Installment.timeless)
    (hproper :
      let final := ((Service.createInstallments planId requested created' rest).run
        (Tables.answer defaults) t).state
      defaults.Proper final.drawn final.ticks) :
    let ours := (Service.createInstallments planId requested created rest).run
      (State.answer (unfailing defaults.identifier time)) s
    let theirs := (Service.createInstallments planId requested created' rest).run
      (Tables.answer defaults) t
    Mirrors defaults ours.state theirs.state ∧
      ∃ is is', ours.value = .ok is ∧ theirs.value = .ok is' ∧
        is.map (fun i => i.kept.timeless) = is'.map Installment.timeless := by
  induction rest generalizing s t created created' with
  | nil => exact ⟨h, created, created', rfl, rfl, hcreated⟩
  | cons next rest ih =>
    obtain ⟨amount, hamount⟩ := exists_amount (hamounts next List.mem_cons_self)
    have hcounts :=
      answer_createInstallment_counts defaults t (next.newInstallment planId) hamount
    -- Counts only grow, so what is proper in the end is proper now.
    have hfirst : defaults.Proper (t.drawn + 1) (t.ticks + 1) := by
      refine hproper.mono ?_ ?_
      · rw [← hcounts.1]
        exact Program.le_run Tables.drawn (fun c t => (answer_counts c t).1) _ _
      · rw [← hcounts.2]
        exact Program.le_run Tables.ticks (fun c t => (answer_counts c t).2) _ _
    obtain ⟨i, i', s', t', hours, htheirs, hsame, hschedules, hmirrors⟩ :=
      h.createInstallment time (next.newInstallment planId) hamount hopen hfirst
    rw [Service.run_createInstallments_cons hours, Service.run_createInstallments_cons htheirs]
    rw [Service.run_createInstallments_cons htheirs] at hproper
    refine ih hmirrors (hschedules ▸ hopen)
      (fun asked hasked => hamounts asked (List.mem_cons_of_mem next hasked)) ?_ hproper
    rw [List.map_append, List.map_append, hcreated, List.map_singleton, List.map_singleton, hsame]

/-- A plan is created alike. -/
lemma create (request : PlanRequest) (time : Nat → Instant)
    (hproper :
      let final := ((Service.create request).run (Tables.answer defaults) t).state
      defaults.Proper final.drawn final.ticks) :
    let ours := (Service.create request).run
      (State.answer (unfailing defaults.identifier time)) s
    let theirs := (Service.create request).run (Tables.answer defaults) t
    Mirrors defaults ours.state theirs.state ∧
      Served.Alike ⟨.create request, ours.value⟩ ⟨.create request, theirs.value⟩ := by
  cases hcheck : Service.checkAmounts request with
  | error e =>
    simp only [Service.create, hcheck]
    exact ⟨h, .failed rfl⟩
  | ok _ =>
    have hamounts := (Service.checkAmounts_eq_ok_iff request).1 hcheck
    obtain ⟨amount, hamount⟩ := exists_amount (hamounts _ request.totalAmount_mem_amounts)
    rw [Service.create_eq_call hamounts] at hproper ⊢
    have hfirst : defaults.Proper t.drawn (t.ticks + 1) := by
      refine hproper.mono ?_ ?_
      · exact Program.le_run Tables.drawn (fun c t => (answer_counts c t).1) _ _
      · rw [← answer_createPlan_ticks defaults t request.newPlan hamount]
        exact Program.le_run Tables.ticks (fun c t => (answer_counts c t).2) _ _
    obtain ⟨hmirrors, hplan⟩ := h.createPlan time request.newPlan hamount hfirst
    simp only [Program.run] at hproper ⊢
    generalize State.answer (unfailing defaults.identifier time) (.createPlan request.newPlan) s =
      ours at hmirrors hplan ⊢
    generalize Tables.answer defaults (.createPlan request.newPlan) t = theirs
      at hmirrors hplan hproper ⊢
    obtain ⟨reply, s'⟩ := ours
    obtain ⟨reply', t'⟩ := theirs
    rcases hplan with ⟨causes, causes', rfl, rfl⟩ | ⟨plan, plan', rfl, rfl, hsame, hopen⟩
    · -- The plan is refused; the errors differ only in the words of what failed behind them.
      exact ⟨hmirrors, .failed rfl⟩
    · have hid : plan'.id = plan.id := (congrArg Plan.id hsame).symm
      have hschedule : ∀ asked ∈ request.schedule, (Amount.ofText asked.amount).isOk :=
        fun asked hasked => hamounts _ (request.amount_mem_amounts hasked)
      simp only [Service.proceed, hid, Program.run_bind, Service.run_conclude_state] at hproper ⊢
      have hnone : ([] : List Installment).map (fun i => i.kept.timeless) =
          ([] : List Installment).map Installment.timeless := rfl
      obtain ⟨hmirrors', is, is', hours, htheirs, hstored⟩ :=
        hmirrors.createInstallments hopen hschedule hnone hproper
      rw [hours, htheirs]
      refine ⟨hmirrors', .created ?_⟩
      rw [kept_view, timeless_view, timeless_view, hsame, List.map_map, ← hstored]
      rfl

/-! ## Operations -/

/-- The plans of a user are listed alike exactly when every schedule keeps its order. -/
lemma list (userId : Identifier) (time : Nat → Instant) :
    let ours := (Service.list userId).run (State.answer (unfailing defaults.identifier time)) s
    let theirs := (Service.list userId).run (Tables.answer defaults) t
    ours.state = s ∧ theirs.state = t ∧
      (Served.Alike ⟨.list userId, ours.value⟩ ⟨.list userId, theirs.value⟩ ↔
        Served.KeepsOrder ⟨.list userId, ours.value⟩) := by
  obtain ⟨hours, hours'⟩ := (State.shows h.opened).list userId
  obtain ⟨htheirs, htheirs'⟩ := Tables.shows.list userId
  refine ⟨hours', htheirs', ?_⟩
  have hrelated := h.plansOf_related userId
  rw [hours, htheirs]
  by_cases hempty : s.plansOf userId = []
  · have hempty' : t.plansOf userId = [] := by
      rw [hempty] at hrelated
      exact List.forall₂_nil_left_iff.1 hrelated
    rw [if_pos hempty, if_pos hempty']
    exact ⟨fun _ => trivial, fun _ => .failed rfl⟩
  · have hempty' : t.plansOf userId ≠ [] := by
      intro hnil
      rw [hnil] at hrelated
      exact hempty (List.forall₂_nil_right_iff.1 hrelated)
    have hviews := map_eq_map_iff hrelated fun plan plan' hplan => h.view_alike_iff hplan
    rw [if_neg hempty, if_neg hempty']
    constructor
    · intro halike
      cases halike with
      | listed same =>
        rw [List.map_map, List.map_map] at same
        exact List.forall_mem_map.2 (hviews.1 same)
    · intro hkeeps
      refine .listed ?_
      rw [List.map_map, List.map_map]
      exact hviews.2 (List.forall_mem_map.1 hkeeps)

/-- What the store lists keeps its order exactly when the rows of each plan were inserted in the
order in which they are due. -/
lemma keepsOrder_list_iff (userId : Identifier) (time : Nat → Instant) :
    let ours := (Service.list userId).run (State.answer (unfailing defaults.identifier time)) s
    Served.KeepsOrder ⟨.list userId, ours.value⟩ ↔
      ∀ plan ∈ t.plansOf userId,
        (t.rowsOf plan.id).Pairwise fun a b => a.dueAt.notAfter b.dueAt := by
  intro ours
  have hvalue : ours.value = _ := ((State.shows h.opened).list userId).1
  have hids : (s.plansOf userId).map Plan.id = (t.plansOf userId).map Plan.id := by
    have hids := congrArg (List.map Plan.id) (h.plansOf userId)
    rw [List.map_map, List.map_map] at hids
    exact hids
  rw [hvalue, Served.keepsOrder_list]
  simp only [h.keepsOrder_iff]
  rw [← List.forall_mem_map (f := Plan.id)
    (P := fun id => (t.rowsOf id).Pairwise fun a b => a.dueAt.notAfter b.dueAt), hids,
    List.forall_mem_map]

/-- A plan is completed alike exactly when its schedule keeps its order. -/
lemma complete (planId : Identifier) (request : CompletionRequest) (time : Nat → Instant) :
    let ours := (Service.complete planId request).run
      (State.answer (unfailing defaults.identifier time)) s
    let theirs := (Service.complete planId request).run (Tables.answer defaults) t
    ours.state = s ∧ theirs.state = t ∧
      (Served.Alike ⟨.complete planId request, ours.value⟩
          ⟨.complete planId request, theirs.value⟩ ↔
        Served.KeepsOrder ⟨.complete planId request, ours.value⟩) := by
  obtain ⟨hours, hours'⟩ := (State.shows h.opened).complete planId request
  obtain ⟨htheirs, htheirs'⟩ := Tables.shows.complete planId request
  refine ⟨hours', htheirs', ?_⟩
  -- The same plan is found on both sides, or none is.
  have hfound : ((s.plansOf request.userId).find? fun plan => plan.id = planId).map Plan.timeless =
      ((t.plansOf request.userId).find? fun plan => plan.id = planId).map Plan.timeless := by
    have hfind := congrArg (List.find? fun plan => plan.id = planId) (h.plansOf request.userId)
    rw [List.find?_map, List.find?_map] at hfind
    exact hfind
  rw [hours, htheirs]
  cases hplan : (s.plansOf request.userId).find? fun plan => plan.id = planId with
  | none =>
    cases hplan' : (t.plansOf request.userId).find? fun plan => plan.id = planId with
    | none => exact ⟨fun _ => trivial, fun _ => .failed rfl⟩
    | some plan' => simp [hplan, hplan'] at hfound
  | some plan =>
    cases hplan' : (t.plansOf request.userId).find? fun plan => plan.id = planId with
    | none => simp [hplan, hplan'] at hfound
    | some plan' =>
      rw [hplan, hplan'] at hfound
      have hpaid := h.paid_alike_iff (Option.some.inj hfound)
      constructor
      · intro halike
        cases halike with
        | completed same => exact hpaid.1 same
      · intro hkeeps
        exact .completed (hpaid.2 hkeeps)

/-- Whatever is asked for next is served alike exactly when what is read back keeps its order, and
the tables go on mirroring the store. -/
theorem serve (o : Operation) (time : Nat → Instant)
    (hproper :
      let final := (t.serve defaults o.program).state
      defaults.Proper final.drawn final.ticks) :
    let ours := s.serve (unfailing defaults.identifier time) o.program
    let theirs := t.serve defaults o.program
    Mirrors defaults ours.state theirs.state ∧
      (Served.Alike ⟨o, ours.value⟩ ⟨o, theirs.value⟩ ↔ Served.KeepsOrder ⟨o, ours.value⟩) := by
  simp only [Memory.serve_value, Memory.serve_state, serve_value, serve_state] at hproper ⊢
  cases o with
  | create request =>
    obtain ⟨hmirrors, halike⟩ := h.create request time hproper
    exact ⟨hmirrors, fun _ => Served.keepsOrder_create request _, fun _ => halike⟩
  | list userId =>
    obtain ⟨hours, htheirs, hiff⟩ := h.list userId time
    simp only [Operation.program, hours, htheirs]
    exact ⟨h, hiff⟩
  | complete planId request =>
    obtain ⟨hours, htheirs, hiff⟩ := h.complete planId request time
    simp only [Operation.program, hours, htheirs]
    exact ⟨h, hiff⟩

omit h in
lemma serveAll_counts (defaults : Defaults) (operations : List Operation) (t : Tables) :
    t.drawn ≤ (serveAll (Tables.serve defaults) operations t).2.drawn ∧
      t.ticks ≤ (serveAll (Tables.serve defaults) operations t).2.ticks := by
  induction operations generalizing t with
  | nil => exact ⟨Nat.le_refl _, Nat.le_refl _⟩
  | cons o operations ih =>
    have hnext := serve_counts defaults o.program t
    have hlater := ih (t.serve defaults o.program).state
    exact ⟨Nat.le_trans hnext.1 hlater.1, Nat.le_trans hnext.2 hlater.2⟩

/-- What is true of one operation is true of any number of them. -/
theorem serveAll (operations : List Operation) (time : Nat → Instant)
    (hproper :
      let final := (serveAll (Tables.serve defaults) operations t).2
      defaults.Proper final.drawn final.ticks) :
    let ours := serveAll (State.serve (unfailing defaults.identifier time)) operations s
    let theirs := serveAll (Tables.serve defaults) operations t
    Mirrors defaults ours.2 theirs.2 ∧
      List.Forall₂ (fun m m' => Served.Alike m m' ↔ m.KeepsOrder) ours.1 theirs.1 := by
  induction operations generalizing s t with
  | nil => exact ⟨h, .nil⟩
  | cons o operations ih =>
    have hcounts := serveAll_counts defaults operations (t.serve defaults o.program).state
    obtain ⟨hnext, hiff⟩ := h.serve o time (hproper.mono hcounts.1 hcounts.2)
    obtain ⟨hfinal, hrest⟩ := ih hnext hproper
    exact ⟨hfinal, .cons hiff hrest⟩

end Mirrors

/-! ## The result -/

/-- **A database can take the place of a store in memory exactly as far as schedules keep their
order.**  An operation is served alike if and only if what the store reads back is due one after
the other also as the database keeps it; and that is so of all operations if none of them asks for
an installment that is due in a leap second. -/
theorem alike_iff_keepsOrder (defaults : Defaults) (time : Nat → Instant)
    (operations : List Operation)
    (hproper : defaults.Proper (serveAll (Tables.serve defaults) operations {}).2.drawn
      (serveAll (Tables.serve defaults) operations {}).2.ticks) :
    let ours := serveAll (State.serve (unfailing defaults.identifier time)) operations {}
    let theirs := serveAll (Tables.serve defaults) operations {}
    List.Forall₂ (fun m m' => Served.Alike m m' ↔ m.KeepsOrder) ours.1 theirs.1 ∧
      ((∀ o ∈ operations, o.asksForLeap = false) → ∀ m ∈ ours.1, m.KeepsOrder) :=
  ⟨((mirrors_empty defaults).serveAll operations time hproper).2,
    Memory.serveAll_keepsOrder _ operations Memory.ordered_empty⟩

/-- The plain sequence of identifiers, with a clock that counts seconds. -/
def Defaults.counting : Defaults where
  identifier n := .sequence (n + 1)
  time n :=
    { Instant.epoch with
      date := ⟨2024, 6, 1, by decide⟩
      second := n % Instant.secondsPerDay
      second_lt := Nat.mod_lt n (by decide)
      leap_at_end := fun h => absurd h (by decide) }

/-! ## A leap second -/

/-- The leap second at the end of the year 2016, half of it gone. -/
def leapSecond : Instant :=
  { Instant.latest with
    date := ⟨2016, 12, 31, by decide⟩
    nano := 1500000000
    nano_lt := by decide
    leap_at_end := by decide }

/-- The first fifth of a second of the year after. -/
def newYear : Instant :=
  { Instant.epoch with
    date := ⟨2017, 1, 1, by decide⟩
    nano := 200000000
    nano_lt := by decide
    leap_at_end := by decide }

/-- The leap second as a database keeps it. -/
def leapSecondKept : Instant :=
  { newYear with
    nano := 500000000
    nano_lt := by decide
    leap_at_end := by decide }

/-- A whole amount. -/
def whole (n : Nat) (h : n < Amount.limit) : Amount :=
  ⟨false, { Magnitude.zero with units := n, units_lt := h }⟩

/-- A user has an installment to pay in the leap second, and another one right after. -/
def leapRequest : PlanRequest :=
  ⟨none, .sequence 1, "usdc", "3", [⟨"1", "usdc", leapSecond⟩, ⟨"2", "usdc", newYear⟩]⟩

/-- The user asks for the plan, and then to see it. -/
def leapOperations : List Operation := [.create leapRequest, .list leapRequest.userId]

/-- The plan that they store for it. -/
def leapPlan : Plan :=
  ⟨.sequence 1, .sequence 1, "usdc", whole 3 (by decide), .pending, Defaults.counting.time 0,
    Defaults.counting.time 0⟩

/-- What the tables hold then: the leap second is kept as half a second of the new year. -/
def leapTables : Tables where
  plans := [leapPlan]
  installments :=
    [⟨.sequence 2, .sequence 1, "usdc", whole 1 (by decide), leapSecondKept, .pending,
      Defaults.counting.time 1, Defaults.counting.time 1⟩,
    ⟨.sequence 3, .sequence 1, "usdc", whole 2 (by decide), newYear, .pending,
      Defaults.counting.time 2, Defaults.counting.time 2⟩]
  drawn := 3
  ticks := 3

lemma create_leapRequest :
    (Tables.serve .counting {} (Service.create leapRequest)).state = leapTables := by
  have hplan : Tables.answer .counting (.createPlan leapRequest.newPlan) {} =
      (.ok leapPlan, { plans := [leapPlan], drawn := 1, ticks := 1 }) := by
    decide +kernel
  rw [serve_state, Service.run_create_of_stored (by decide +kernel) hplan,
    leapRequest.schedule_eq_self (by decide +kernel)]
  decide +kernel

lemma serveAll_leapOperations :
    (serveAll (Tables.serve .counting) leapOperations {}).2 = leapTables := by
  rw [leapOperations, serveAll, serveAll, serveAll]
  simp only [Operation.program, create_leapRequest]
  rw [serve_state]
  exact (Tables.shows.list leapRequest.userId).2

lemma proper_leapOperations :
    Defaults.counting.Proper (serveAll (Tables.serve .counting) leapOperations {}).2.drawn
      (serveAll (Tables.serve .counting) leapOperations {}).2.ticks := by
  rw [serveAll_leapOperations]
  decide +kernel

theorem alike_iff_keepsOrder_leapOperations :
    Defaults.counting.Proper (serveAll (Tables.serve .counting) leapOperations {}).2.drawn
        (serveAll (Tables.serve .counting) leapOperations {}).2.ticks ∧
      List.Forall₂ (fun m m' => Served.Alike m m' ↔ m.KeepsOrder)
        (serveAll (State.serve (unfailing Defaults.counting.identifier fun _ => .epoch))
          leapOperations {}).1
        (serveAll (Tables.serve .counting) leapOperations {}).1 ∧
      ((∀ o ∈ leapOperations, o.asksForLeap = false) →
        ∀ m ∈ (serveAll (State.serve (unfailing Defaults.counting.identifier fun _ => .epoch))
          leapOperations {}).1, m.KeepsOrder) :=
  ⟨proper_leapOperations,
    alike_iff_keepsOrder .counting (fun _ => .epoch) leapOperations proper_leapOperations⟩

/-- A store and a database do not serve the leap second alike: the store lists the installment of
the leap second first, and the database lists it last. -/
theorem not_alike_leapOperations :
    Defaults.counting.Proper (serveAll (Tables.serve .counting) leapOperations {}).2.drawn
        (serveAll (Tables.serve .counting) leapOperations {}).2.ticks ∧
      ¬ List.Forall₂ Served.Alike
        (serveAll (State.serve (unfailing Defaults.counting.identifier fun _ => .epoch))
          leapOperations {}).1
        (serveAll (Tables.serve .counting) leapOperations {}).1 := by
  refine ⟨proper_leapOperations, fun halike => ?_⟩
  -- After the creation the tables are known, and the store is what they mirror.
  have hproper : Defaults.counting.Proper leapTables.drawn leapTables.ticks := by
    rw [← serveAll_leapOperations]
    exact proper_leapOperations
  have hcreated : Mirrors .counting
      (State.serve (unfailing Defaults.counting.identifier fun _ => .epoch) {}
        (Service.create leapRequest)).state leapTables := by
    rw [← create_leapRequest] at hproper ⊢
    exact ((mirrors_empty .counting).serve (.create leapRequest) (fun _ => .epoch) hproper).1
  cases halike with
  | cons _ halike =>
    cases halike with
    | cons hlisted _ =>
      simp only [Operation.program, create_leapRequest, Memory.serve_value, serve_value]
        at hlisted
      have hiff := (hcreated.list leapRequest.userId fun _ => .epoch).2.2
      have hkeeps := (hcreated.keepsOrder_list_iff leapRequest.userId fun _ => .epoch).1
        (hiff.1 hlisted)
      have hstored : leapPlan ∈ leapTables.plansOf leapRequest.userId := by
        rw [Tables.plansOf, List.mem_mergeSort]
        decide +kernel
      have hrows := hkeeps leapPlan hstored
      exact absurd hrows (by decide +kernel)

end PaymentPlans.Relational
