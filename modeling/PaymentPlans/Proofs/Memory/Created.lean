/-
# What a creation gives

A creation over a store in memory succeeds whenever its amounts can be read, the identifier of
its plan is free and there are identifiers for its installments.  It gives the plan that was
asked for, with its installments in a stable order by due date.  The installments get their
identifiers in that order, not in the order of the request.
-/
import PaymentPlans.Proofs.Memory.Calls
import PaymentPlans.Proofs.Memory.Course

namespace PaymentPlans

/-- Sources deliver these identifiers, one after the other, from the `n`-th on. -/
def Sources.Delivers (sources : Sources) : Nat → List Identifier → Prop
  | _, [] => True
  | n, id :: ids => sources.identifier n = .ok id ∧ sources.Delivers (n + 1) ids

/-- A text is the written form of the amount that another one is read as. -/
def Amount.Renders (text asked : String) : Prop :=
  ∃ amount, Amount.ofText asked = .ok amount ∧ text = amount.text

/-- What callers are shown is the installment of a plan that was asked for. -/
structure InstallmentView.Grants (view : InstallmentView) (planId : Identifier)
    (asked : InstallmentRequest) : Prop where
  planId : view.planId = planId
  currency : view.currency = asked.currency
  amount : Amount.Renders view.amount asked.amount
  dueAt : view.dueAt = asked.dueAt
  status : view.status = .pending

/-- What callers are shown is the plan that was asked for, with all of its installments. -/
structure PlanView.Grants (view : PlanView) (planId : Identifier) (request : PlanRequest) :
    Prop where
  id : view.id = planId
  userId : view.userId = request.userId
  currency : view.currency = request.currency
  totalAmount : Amount.Renders view.totalAmount request.totalAmount
  status : view.status = .pending
  /-- There is one for each that was asked for, in a stable order by due date. -/
  installments : ∃ ordered, IsStableByDue request.installments ordered ∧
    List.Forall₂ (fun asked shown => shown.Grants planId asked) ordered view.installments

lemma Installment.Fulfils.view_grants {i : Installment} {planId : Identifier}
    {asked : InstallmentRequest} (h : i.Fulfils planId asked) : i.view.Grants planId asked where
  planId := h.planId
  currency := h.currency
  amount := ⟨i.amount, h.amount, rfl⟩
  dueAt := h.dueAt
  status := h.status

/-- A plan that was asked for is shown as it was asked for, if its installments are those of the
schedule. -/
lemma Plan.Fulfils.view_grants {plan : Plan} {request : PlanRequest}
    {installments : List Installment} (h : plan.Fulfils request)
    (hschedule : List.Forall₂ (fun asked i => i.Fulfils plan.id asked) request.schedule
      installments) : (plan.view installments).Grants plan.id request where
  id := rfl
  userId := h.userId
  currency := h.currency
  totalAmount := ⟨plan.amount, h.amount, rfl⟩
  status := h.status
  installments := ⟨request.schedule, request.schedule_isStableByDue,
    List.forall₂_map_right_iff.2 (hschedule.imp fun _ _ => Installment.Fulfils.view_grants)⟩

namespace Memory

variable {sources : Sources} {s : State}

/-- A plan that is asked for is stored under the identifier that it gets, if that one is free. -/
lemma answer_createPlan_of_free {request : PlanRequest} {planId : Identifier}
    (hamount : (Amount.ofText request.totalAmount).isOk)
    (hplan : s.chosen sources request.id = .ok planId) (hfree : planId ∉ s.schedules) :
    ∃ plan s', State.answer sources (.createPlan request.newPlan) s = (.ok plan, s') ∧
      plan.Fulfils request ∧ plan.id = planId ∧ s'.drawn = s.drawnAfter request.id := by
  obtain ⟨amount, hamount⟩ := exists_amount hamount
  have hread : Amount.ofText request.newPlan.amount = .ok amount := hamount
  have hanswer := answer_createPlan hread hplan
  simp only [if_neg hfree] at hanswer
  refine ⟨_, _, hanswer, ⟨fun id hid => ?_, rfl, rfl, hamount, rfl⟩, rfl, rfl⟩
  -- An identifier that was wished for is the one that was chosen.
  rw [hid] at hplan
  exact (Except.ok.inj hplan).symm

/-- An installment that is asked for is stored under the next identifier. -/
lemma answer_createInstallment_of_identifier {asked : InstallmentRequest} {id : Identifier}
    (planId : Identifier) (hamount : (Amount.ofText asked.amount).isOk)
    (hid : sources.identifier s.drawn = .ok id) :
    ∃ i s', State.answer sources (.createInstallment (asked.newInstallment planId)) s =
        (.ok i, s') ∧
      i.Fulfils planId asked ∧ i.id = id ∧ s'.drawn = s.drawn + 1 := by
  obtain ⟨amount, hamount⟩ := exists_amount hamount
  have hread : Amount.ofText (asked.newInstallment planId).amount = .ok amount := hamount
  exact ⟨_, _, answer_createInstallment hread hid, ⟨rfl, rfl, hamount, rfl, rfl⟩, rfl, rfl⟩

/-- All installments are stored if there are identifiers for them, which they get in turn. -/
lemma run_createInstallments {planId : Identifier} {rest : List InstallmentRequest}
    {ids : List Identifier} (requested : Nat) (created : List Installment)
    (hamounts : ∀ asked ∈ rest, (Amount.ofText asked.amount).isOk)
    (hlength : ids.length = rest.length) (hids : sources.Delivers s.drawn ids) :
    ∃ installments,
      ((Service.createInstallments planId requested created rest).run (State.answer sources)
        s).value = .ok (created ++ installments) ∧
      List.Forall₂ (fun asked i => i.Fulfils planId asked) rest installments ∧
      installments.map Installment.id = ids := by
  -- The store moves on with each installment, and the identifiers with it.
  induction rest generalizing s created ids with
  | nil =>
    obtain rfl := List.length_eq_zero_iff.1 hlength
    exact ⟨[], by rw [List.append_nil]; rfl, .nil, rfl⟩
  | cons next rest ih =>
    obtain ⟨id, ids, rfl⟩ := List.exists_cons_of_length_eq_add_one hlength
    obtain ⟨hnext, hrest⟩ := List.forall_mem_cons.1 hamounts
    obtain ⟨hid, hids⟩ := hids
    obtain ⟨i, s', hanswer, hfulfils, rfl, hdrawn⟩ :=
      answer_createInstallment_of_identifier planId hnext hid
    rw [← hdrawn] at hids
    obtain ⟨installments, hvalue, hschedule, hmap⟩ :=
      ih (created ++ [i]) hrest (Nat.succ.inj hlength) hids
    refine ⟨i :: installments, ?_, .cons hfulfils hschedule, congrArg (i.id :: ·) hmap⟩
    rw [Service.run_createInstallments_cons hanswer, hvalue, List.append_assoc]
    rfl

/-- **What a creation gives.**  Whatever a store holds, if all amounts of a request can be read,
if the identifier that its plan gets is free, and if there are identifiers for its installments,
then the creation succeeds.  It shows the plan under that identifier, as it was asked for, and its
installments in a stable order by due date, in which they get their identifiers. -/
theorem create_grants {request : PlanRequest} {planId : Identifier} {ids : List Identifier}
    (hamounts : ∀ text ∈ request.amounts, (Amount.ofText text).isOk)
    (hplan : s.chosen sources request.id = .ok planId) (hfree : planId ∉ s.schedules)
    (hlength : ids.length = request.installments.length)
    (hids : sources.Delivers (s.drawnAfter request.id) ids) :
    ∃ view, (s.serve sources (Service.create request)).value = .ok view ∧
      view.Grants planId request ∧ view.installments.map InstallmentView.id = ids := by
  have hschedule : ∀ asked ∈ request.schedule, (Amount.ofText asked.amount).isOk :=
    fun asked hasked => hamounts _ (request.amount_mem_amounts hasked)
  obtain ⟨plan, s', hstored, hfulfils, rfl, hdrawn⟩ :=
    answer_createPlan_of_free (hamounts _ request.totalAmount_mem_amounts) hplan hfree
  rw [← request.length_schedule] at hlength
  rw [← hdrawn] at hids
  obtain ⟨installments, hvalue, hall, hmap⟩ :=
    run_createInstallments request.installments.length [] hschedule hlength hids
  refine ⟨plan.view installments, ?_, hfulfils.view_grants hall, ?_⟩
  · simp only [serve_value, Service.run_create_of_stored hamounts hstored, Program.run_bind,
      hvalue]
    rfl
  · rw [← hmap]
    exact List.map_map

/-- A request whose first and third installments are due at the same instant, after the second
one. -/
def tied : PlanRequest :=
  ⟨none, .sequence 1, "usdc", "30.00",
    [⟨"10.00", "usdc", .latest⟩, ⟨"+5.5", "eurc", .epoch⟩, ⟨"14.50", "usdc", .latest⟩]⟩

theorem create_grants_tied :
    let ids := [Identifier.sequence 2, .sequence 3, .sequence 4]
    (∀ text ∈ tied.amounts, (Amount.ofText text).isOk) ∧
      State.chosen .plain {} tied.id = .ok (.sequence 1) ∧
      Identifier.sequence 1 ∉ State.schedules {} ∧
      ids.length = tied.installments.length ∧
      Sources.plain.Delivers (State.drawnAfter {} tied.id) ids ∧
      ∃ view, (State.serve .plain {} (Service.create tied)).value = .ok view ∧
        view.Grants (.sequence 1) tied ∧ view.installments.map InstallmentView.id = ids := by
  have hamounts : ∀ text ∈ tied.amounts, (Amount.ofText text).isOk := by decide +kernel
  have hfree : Identifier.sequence 1 ∉ State.schedules {} := List.not_mem_nil
  have hids : Sources.plain.Delivers (State.drawnAfter {} tied.id)
      [.sequence 2, .sequence 3, .sequence 4] := ⟨rfl, rfl, rfl, trivial⟩
  exact ⟨hamounts, rfl, hfree, rfl, hids, create_grants hamounts rfl hfree rfl hids⟩

end Memory

end PaymentPlans
