/-
# The course of an operation through a store in memory

Between two sections of a creation anything may happen to the store.  What a creation does is
therefore told by how far it has come: it claims the identifier of its plan, then it adds that
plan, then it adds the installments of the schedule one after the other, each after those before
it, and what it ends with tells where it stopped.  Listings and completions only read, and they
look up only schedules of plans that they were shown.
-/
import PaymentPlans.Memory.Basic
import PaymentPlans.Proofs.Contract
import PaymentPlans.Proofs.Creation
import PaymentPlans.Service.Operation

namespace PaymentPlans

/-- A plan is the one that a request asks for. -/
structure Plan.Fulfils (plan : Plan) (request : PlanRequest) : Prop where
  /-- A chosen identifier is kept. -/
  id : ∀ id, request.id = some id → plan.id = id
  userId : plan.userId = request.userId
  currency : plan.currency = request.currency
  amount : Amount.ofText request.totalAmount = .ok plan.amount
  status : plan.status = .pending

/-- An installment is the one of a plan that a request asks for. -/
structure Installment.Fulfils (installment : Installment) (planId : Identifier)
    (request : InstallmentRequest) : Prop where
  planId : installment.planId = planId
  currency : installment.currency = request.currency
  amount : Amount.ofText request.amount = .ok installment.amount
  dueAt : installment.dueAt = request.dueAt
  status : installment.status = .pending

/-- Installments are the ones that a plan's schedule starts with. -/
def StartsSchedule (request : PlanRequest) (planId : Identifier) (installments : List Installment) :
    Prop :=
  ∃ front, front <+: request.schedule ∧
    List.Forall₂ (fun asked i => i.Fulfils planId asked) front installments

lemma startsSchedule_nil (request : PlanRequest) (planId : Identifier) :
    StartsSchedule request planId [] := ⟨[], List.nil_prefix, .nil⟩

lemma StartsSchedule.planId {request : PlanRequest} {planId : Identifier}
    {installments : List Installment} (h : StartsSchedule request planId installments) :
    ∀ i ∈ installments, i.planId = planId := by
  obtain ⟨front, -, hfulfils⟩ := h
  induction hfulfils with
  | nil => simp
  | cons hfirst _ ih => exact List.forall_mem_cons.2 ⟨hfirst.planId, ih⟩

lemma StartsSchedule.map_dueAt {request : PlanRequest} {planId : Identifier}
    {installments : List Installment} (h : StartsSchedule request planId installments) :
    ∃ front, front <+: request.schedule ∧
      installments.map Installment.dueAt = front.map InstallmentRequest.dueAt := by
  obtain ⟨front, hstart, hfulfils⟩ := h
  refine ⟨front, hstart, ?_⟩
  clear hstart
  induction hfulfils with
  | nil => rfl
  | cons hfirst _ ih => rw [List.map_cons, List.map_cons, hfirst.dueAt, ih]

lemma StartsSchedule.ascending {request : PlanRequest} {planId : Identifier}
    {installments : List Installment} (h : StartsSchedule request planId installments) :
    installments.Pairwise fun a b => a.dueAt.notAfter b.dueAt := by
  obtain ⟨front, hstart, hdue⟩ := h.map_dueAt
  have hfront : (front.map InstallmentRequest.dueAt).Pairwise fun a b => a.notAfter b :=
    List.pairwise_map.2 (request.schedule_ascending.sublist hstart.sublist)
  rw [← hdue] at hfront
  exact List.pairwise_map.1 hfront

/-- Whether an error is one of a creation that stored nothing. -/
def ServiceError.refusesPlan : ServiceError → Bool
  | .badAmount .. => true
  | .planNotCreated .. => true
  | .noIdentifier none _ _ => true
  | _ => false

namespace Memory

/-! ## How far a creation has come -/

/-- How far a creation has come. -/
inductive Progress where
  | nothing
  /-- The identifier of the plan is claimed. -/
  | claimed (id : Identifier)
  /-- The plan is stored with these installments. -/
  | stored (plan : Plan) (installments : List Installment)

namespace Progress

/-- The identifier that is claimed. -/
def planId? : Progress → Option Identifier
  | nothing => none
  | claimed id => some id
  | stored plan _ => some plan.id

/-- The plan that is stored. -/
def plan? : Progress → Option Plan
  | stored plan _ => some plan
  | _ => none

/-- The installments that are stored. -/
def installments : Progress → List Installment
  | stored _ is => is
  | _ => []

lemma planId?_of_plan? {progress : Progress} {plan : Plan} (h : progress.plan? = some plan) :
    progress.planId? = some plan.id := by
  cases progress with
  | stored own is => exact congrArg (·.map Plan.id) h
  | nothing | claimed => exact nomatch h

/-- How far a creation has come after a section. -/
def advance : Progress → (c : Section) → c.Answer → Progress
  | nothing, .openSchedule id, true => claimed id
  | claimed _, .addPlan plan, _ => stored plan []
  | stored plan is, .addInstallment i, _ => stored plan (is ++ [i])
  | progress, _, _ => progress

@[simp] lemma advance_drawIdentifier (progress : Progress) (answer : Except String Identifier) :
    progress.advance .drawIdentifier answer = progress := by
  cases progress <;> rfl

@[simp] lemma advance_readClock (progress : Progress) (now : Instant) :
    progress.advance .readClock now = progress := by
  cases progress <;> rfl

/-- The sections that a creation may execute next. -/
def Allows (request : PlanRequest) : Progress → Section → Prop
  | _, .drawIdentifier => True
  | _, .readClock => True
  | nothing, .openSchedule _ => True
  | claimed id, .addPlan plan => plan.id = id ∧ plan.Fulfils request
  | stored plan is, .addInstallment i => StartsSchedule request plan.id (is ++ [i])
  | _, _ => False

/-- What is stored is what was asked for. -/
def Follows (request : PlanRequest) : Progress → Prop
  | stored plan is => plan.Fulfils request ∧ StartsSchedule request plan.id is
  | _ => True

lemma Follows.planId {request : PlanRequest} {progress : Progress}
    (h : progress.Follows request) : ∀ i ∈ progress.installments,
      progress.planId? = some i.planId := by
  intro i hi
  cases progress with
  | nothing | claimed => exact absurd hi List.not_mem_nil
  | stored plan is => exact congrArg some (h.2.planId i hi).symm

lemma Follows.userId {request : PlanRequest} {progress : Progress}
    (h : progress.Follows request) : ∀ plan ∈ progress.plan?, plan.userId = request.userId := by
  intro plan hplan
  cases progress with
  | nothing | claimed => exact nomatch hplan
  | stored own is =>
    obtain rfl := Option.some.inj hplan
    exact h.1.userId

lemma Follows.startsSchedule {request : PlanRequest} {progress : Progress} {id : Identifier}
    (h : progress.Follows request) (hid : progress.planId? = some id) :
    StartsSchedule request id progress.installments := by
  cases progress with
  | nothing => exact nomatch hid
  | claimed => exact startsSchedule_nil request id
  | stored plan is =>
    obtain rfl := Option.some.inj hid
    exact h.2

lemma not_allows_scheduleOf (request : PlanRequest) (progress : Progress) (id : Identifier) :
    ¬ progress.Allows request (.scheduleOf id) := by
  cases progress <;> exact not_false

/-- An identifier that is claimed stays so. -/
lemma Allows.planId? {request : PlanRequest} {progress : Progress} {c : Section} {id : Identifier}
    (hallowed : progress.Allows request c) (hid : progress.planId? = some id)
    (answer : c.Answer) : (progress.advance c answer).planId? = some id := by
  cases progress with
  | nothing => exact nomatch hid
  | claimed own =>
    cases c with
    | addPlan plan =>
      obtain ⟨rfl, -⟩ := hallowed
      exact hid
    | _ => exact hid
  | stored plan is => cases c <;> exact hid

/-- A section that is allowed keeps to what was asked for. -/
lemma Follows.advance {request : PlanRequest} {progress : Progress} {c : Section}
    (h : progress.Follows request) (hallowed : progress.Allows request c) (answer : c.Answer) :
    (progress.advance c answer).Follows request := by
  cases progress with
  | nothing =>
    cases c with
    | openSchedule id => cases answer <;> trivial
    | _ => trivial
  | claimed id =>
    cases c with
    | addPlan plan => exact ⟨hallowed.2, startsSchedule_nil request plan.id⟩
    | _ => trivial
  | stored plan is =>
    cases c with
    | addInstallment i => exact ⟨h.1, hallowed⟩
    | _ => exact h

/-- What a creation may end with. -/
def Accepts (request : PlanRequest) : Progress → Except ServiceError PlanView → Prop
  | nothing, .error e => e.refusesPlan
  | stored plan is, .ok view => view = plan.view is ∧
      List.Forall₂ (fun asked i => i.Fulfils plan.id asked) request.schedule is
  | stored plan is, .error (.noIdentifier id persisted _) =>
    id = some plan.id ∧ persisted = is.length
  | _, _ => False

end Progress

/-- What a creation does to a store, told by how far it has come.  It relies on no answer. -/
def creating (request : PlanRequest) : Contract Section Section.Answer Progress where
  Allows := Progress.Allows request
  Promises _ _ _ := True
  advance := Progress.advance

open Program (Keeps)

section Creation

variable {request : PlanRequest}

/-- The installments of a plan are added in the order of the schedule. -/
lemma keeps_createInstallments {plan : Plan} {front rest : List InstallmentRequest}
    {created : List Installment} (requested : Nat) (hschedule : front ++ rest = request.schedule)
    (hcreated : List.Forall₂ (fun asked i => i.Fulfils plan.id asked) front created)
    (hamounts : ∀ asked ∈ rest, (Amount.ofText asked.amount).isOk) :
    (((Service.createInstallments plan.id requested created rest).bind
      (Service.conclude request.userId plan)).refine respond).Keeps (creating request)
        (Progress.Accepts request) (.stored plan created) := by
  induction rest generalizing front created with
  | nil =>
    rw [List.append_nil] at hschedule
    subst hschedule
    exact ⟨rfl, hcreated⟩
  | cons next rest ih =>
    obtain ⟨amount, hamount⟩ := exists_amount (hamounts next List.mem_cons_self)
    simp only [Service.createInstallments, Repository.createInstallment, Program.bind_eq_bind,
      Program.ask_bind, Program.bind, Program.refine, respond, createInstallment, readAmount,
      InstallmentRequest.newInstallment, hamount, Except.mapError, drawIdentifier]
    refine ⟨trivial, fun drawn _ => ?_⟩
    cases drawn with
    | error reason =>
      -- The error counts the installments that are stored.
      exact ⟨rfl, rfl⟩
    | ok id =>
      refine ⟨trivial, fun now _ => ?_⟩
      have hnext : List.Forall₂ (fun asked i => i.Fulfils plan.id asked) (front ++ [next])
          (created ++ [⟨id, plan.id, next.currency, amount, next.dueAt, .pending, now, now⟩]) :=
        List.rel_append hcreated (.cons ⟨rfl, rfl, hamount, rfl, rfl⟩ .nil)
      refine ⟨⟨front ++ [next], ?_, hnext⟩, fun _ _ => ?_⟩
      · exact ⟨rest, by rw [← hschedule, List.append_assoc]; rfl⟩
      · exact ih (by rw [← hschedule, List.append_assoc]; rfl) hnext
          fun asked hasked => hamounts asked (List.mem_cons_of_mem next hasked)

/-- What a creation does once the identifier of its plan is chosen. -/
def withIdentifier (request : PlanRequest) (amount : Amount) (id : Identifier) :
    SectionProgram (Except ServiceError PlanView) :=
  .call .readClock fun now =>
    let plan : Plan := ⟨id, request.userId, request.currency, amount, .pending, now, now⟩
    .call (.openSchedule id) fun
      | true => .call (.addPlan plan) fun _ => .note (.planRemembered id request.userId)
          ((Service.proceed request (.ok plan)).refine respond)
      | false => .done (.error (Service.planRefused request.userId (duplicate id)))

lemma refine_create {amount : Amount}
    (hamounts : ∀ text ∈ request.amounts, (Amount.ofText text).isOk)
    (hamount : Amount.ofText request.totalAmount = .ok amount) :
    (Service.create request).refine respond = (chooseIdentifier request.id).bind fun
      | .ok id => withIdentifier request amount id
      | .error reason => .done (.error (.noIdentifier none 0 (.noIdentifier reason))) := by
  rw [Service.create_eq_call hamounts]
  simp only [Program.refine, respond, createPlan, readAmount, PlanRequest.newPlan, hamount,
    Except.mapError, Program.bind_eq_bind, Program.bind_assoc]
  refine congrArg (Program.bind _) (funext fun chosen => ?_)
  cases chosen with
  | error reason => rfl
  | ok id =>
    refine congrArg (Program.call _) (funext fun now => congrArg (Program.call _) (funext ?_))
    rintro (_ | _) <;> rfl

lemma keeps_withIdentifier {amount : Amount} {id : Identifier}
    (hamounts : ∀ text ∈ request.amounts, (Amount.ofText text).isOk)
    (hamount : Amount.ofText request.totalAmount = .ok amount)
    (hid : ∀ wished, request.id = some wished → id = wished) :
    (withIdentifier request amount id).Keeps (creating request) (Progress.Accepts request)
      .nothing := by
  refine ⟨trivial, fun now _ => ⟨trivial, fun free _ => ?_⟩⟩
  cases free with
  | false => rfl
  | true =>
    refine ⟨⟨rfl, hid, rfl, rfl, hamount, rfl⟩, fun _ _ => ?_⟩
    exact keeps_createInstallments request.installments.length (List.nil_append _) .nil
      fun asked hasked => hamounts _ (request.amount_mem_amounts hasked)

/-- A creation keeps to its contract. -/
theorem keeps_create : ((Service.create request).refine respond).Keeps (creating request)
    (Progress.Accepts request) .nothing := by
  cases hcheck : Service.checkAmounts request with
  | error e =>
    obtain ⟨text, fault, -, rfl⟩ := Service.checkAmounts_eq_error_iff.1 hcheck
    simp only [Service.create, hcheck]
    rfl
  | ok _ =>
    have hamounts := (Service.checkAmounts_eq_ok_iff request).1 hcheck
    obtain ⟨amount, hamount⟩ := exists_amount (hamounts _ request.totalAmount_mem_amounts)
    rw [refine_create hamounts hamount]
    -- A chosen identifier is not drawn.
    cases hwished : request.id with
    | some wished =>
      exact keeps_withIdentifier hamounts hamount fun other hother =>
        Option.some.inj (hwished.symm.trans hother)
    | none =>
      refine ⟨trivial, fun drawn _ => ?_⟩
      cases drawn with
      | error reason => rfl
      | ok id => exact keeps_withIdentifier hamounts hamount (by simp [hwished])

end Creation

/-! ## Reading -/

/-- What an operation that only reads does to a store.  The identifiers of the plans that it was
shown are what it has come to know; it relies on their schedules being there. -/
def reading : Contract Section Section.Answer (List Identifier) where
  Allows known
    | .plansOf _ => True
    | .scheduleOf id => id ∈ known
    | _ => False
  Promises _
    | .scheduleOf _, answer => answer.isSome
    | _, _ => True
  advance known
    | .plansOf _, some plans => known ++ plans.map Plan.id
    | _, _ => known

/-- Where plans have schedules, reading goes as promised, and it changes nothing. -/
lemma reading_execute (sources : Sources) {s : State} {known : List Identifier} {c : Section}
    (hallowed : reading.Allows known c) (hplans : ∀ plan ∈ s.plans, plan.id ∈ s.schedules)
    (hknown : ∀ id ∈ known, id ∈ s.schedules) :
    reading.Promises known c (s.execute sources c).1 ∧ (s.execute sources c).2 = s ∧
      ∀ id ∈ reading.advance known c (s.execute sources c).1, id ∈ s.schedules := by
  cases c with
  | plansOf userId =>
    have hlisted : ∀ plan ∈ s.plansOf userId, plan.id ∈ s.schedules := fun plan hplan =>
      hplans plan (List.mem_filter.1 (List.mem_reverse.1 hplan)).1
    refine ⟨trivial, rfl, ?_⟩
    by_cases hempty : s.plansOf userId = []
    · simpa [State.execute, hempty, reading] using hknown
    · simp only [State.execute, List.isEmpty_iff, hempty, if_false, reading, List.mem_append]
      rintro id (hid | hid)
      · exact hknown id hid
      · obtain ⟨plan, hplan, rfl⟩ := List.mem_map.1 hid
        exact hlisted plan hplan
  | scheduleOf id =>
    have hopen : id ∈ s.schedules := hknown id hallowed
    simpa [State.execute, hopen, reading] using hknown
  | _ => exact hallowed.elim

/-- An operation does not fail because the installments of a plan could not be listed. -/
def FindsSchedules {α : Type} (outcome : Except ServiceError α) : Prop :=
  ∀ planId e, outcome ≠ .error (.installmentsNotListed planId e)

lemma findsSchedules_ok {α : Type} (value : α) : FindsSchedules (.ok value) := by
  intro planId e hfailed
  cases hfailed

lemma findsSchedules_of_isNotFound {α : Type} {e : ServiceError} (h : e.isNotFound) :
    FindsSchedules (.error e : Except ServiceError α) := by
  intro planId cause hfailed
  cases hfailed
  cases h

lemma keeps_installmentsOf {known : List Identifier} {planId : Identifier}
    (hknown : planId ∈ known) :
    ((Service.installmentsOf planId).refine respond).Keeps reading
      (fun _ outcome => ∃ installments, outcome = .ok installments) known := by
  refine ⟨hknown, fun answer hpromise => ?_⟩
  cases answer with
  | none => cases hpromise
  | some installments => exact ⟨installments, rfl⟩

lemma keeps_viewAll {known : List Identifier} {plans : List Plan}
    (hknown : ∀ plan ∈ plans, plan.id ∈ known) :
    ((Service.viewAll plans).refine respond).Keeps reading (fun _ => FindsSchedules) known := by
  induction plans with
  | nil => exact findsSchedules_ok []
  | cons plan plans ih =>
    refine ⟨hknown plan List.mem_cons_self, fun answer hpromise => ?_⟩
    cases answer with
    | none => cases hpromise
    | some installments =>
      simp only [Program.bind_eq_bind, Program.pure_eq_done, Program.done_bind, Program.bind,
        Program.refine, Program.refine_bind]
      refine (ih fun other hother => hknown other (List.mem_cons_of_mem plan hother)).bind ?_
      rintro known' (e | views) haccepted
      · exact haccepted
      · exact findsSchedules_ok _

/-- A listing keeps to the contract of reading. -/
theorem keeps_list (userId : Identifier) :
    ((Service.list userId).refine respond).Keeps reading (fun _ => FindsSchedules) [] := by
  refine ⟨trivial, fun answer _ => ?_⟩
  rcases answer with _ | (_ | ⟨plan, plans⟩)
  · exact findsSchedules_of_isNotFound rfl
  · exact findsSchedules_of_isNotFound rfl
  · exact keeps_viewAll fun other hother => List.mem_map_of_mem hother

/-- A completion keeps to the contract of reading. -/
theorem keeps_complete (planId : Identifier) (request : CompletionRequest) :
    ((Service.complete planId request).refine respond).Keeps reading (fun _ => FindsSchedules)
      [] := by
  refine ⟨trivial, fun answer _ => ?_⟩
  rcases answer with _ | plans
  · exact findsSchedules_of_isNotFound rfl
  · cases hfind : plans.find? fun plan => plan.id = planId with
    | none =>
      simp only [Program.bind_eq_bind, Program.pure_eq_done, Program.done_bind, Program.bind, hfind]
      exact findsSchedules_of_isNotFound rfl
    | some plan =>
      have hplan : plan.id ∈ plans.map Plan.id :=
        List.mem_map_of_mem (List.mem_of_find?_eq_some hfind)
      simp only [Program.bind_eq_bind, Program.pure_eq_done, Program.done_bind, Program.bind, hfind,
        Program.refine_bind]
      refine (keeps_installmentsOf hplan).bind ?_
      rintro known _ ⟨installments, rfl⟩
      simp only [Program.refine_bind, Program.refine_forM_say]
      have hsay : ((Service.payEvents planId installments).forM Program.say :
          SectionProgram Unit).Keeps reading (fun _ _ => True) known :=
        Program.keeps_forM_say trivial _
      exact hsay.bind fun _ _ _ => findsSchedules_ok _

end Memory

end PaymentPlans
