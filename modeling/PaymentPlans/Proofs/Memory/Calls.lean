/-
# Calls that do not overlap

When nothing comes in between its sections, a call to a store in memory is one step of the store,
and an operation is a run of the service's program against these steps.
-/
import PaymentPlans.Memory.Basic
import PaymentPlans.Proofs.Reading

namespace PaymentPlans.Memory

variable {sources : Sources} {s : State}

/-- Answers a call with nothing in between. -/
def State.answer (sources : Sources) (c : Repository.Call) (s : State) :
    Repository.Answer c × State :=
  ((s.run sources (respond c)).value, (s.run sources (respond c)).state)

lemma serve_value {α : Type} (p : RepositoryProgram α) :
    (s.serve sources p).value = (p.run (State.answer sources) s).value :=
  (Program.run_refine respond p s).1

lemma serve_state {α : Type} (p : RepositoryProgram α) :
    (s.serve sources p).state = (p.run (State.answer sources) s).state :=
  (Program.run_refine respond p s).2

lemma answer_listPlans (userId : Identifier) : State.answer sources (.listPlans userId) s =
    (if s.plansOf userId = [] then .error (.notFound "payment plan" userId)
      else .ok (s.plansOf userId), s) := by
  cases hplans : s.plansOf userId <;>
    simp [State.answer, State.run, respond, listPlans, plansOf, Program.run, State.execute, hplans]

lemma answer_listInstallments (planId : Identifier) :
    State.answer sources (.listInstallments planId) s =
      (if planId ∈ s.schedules then .ok (s.installmentsOf planId)
        else .error (.notFound "payment installment" planId), s) := by
  by_cases hopen : planId ∈ s.schedules <;>
    simp [State.answer, State.run, respond, listInstallments, scheduleOf, Program.run,
      State.execute, hopen]

/-- A store shows what it holds, if its plans have schedules. -/
lemma State.shows (h : ∀ plan ∈ s.plans, plan.id ∈ s.schedules) :
    Service.Shows (State.answer sources) s s.plansOf s.installmentsOf where
  plans := answer_listPlans
  installments userId plan hplan := by
    have hopen := h plan (List.mem_filter.1 (List.mem_reverse.1 hplan)).1
    rw [answer_listInstallments, if_pos hopen]

lemma serve_list_value (h : ∀ plan ∈ s.plans, plan.id ∈ s.schedules) (userId : Identifier) :
    (s.serve sources (Service.list userId)).value =
      if s.plansOf userId = [] then .error (.noPlans userId)
      else .ok ((s.plansOf userId).map fun plan => plan.view (s.installmentsOf plan.id)) :=
  (serve_value _).trans ((State.shows h).list userId).1

lemma serve_list_state (h : ∀ plan ∈ s.plans, plan.id ∈ s.schedules) (userId : Identifier) :
    (s.serve sources (Service.list userId)).state = s :=
  (serve_state _).trans ((State.shows h).list userId).2

lemma serve_complete_value (h : ∀ plan ∈ s.plans, plan.id ∈ s.schedules) (planId : Identifier)
    (request : CompletionRequest) :
    (s.serve sources (Service.complete planId request)).value =
      match (s.plansOf request.userId).find? fun plan => plan.id = planId with
      | none => .error (.planNotFound request.userId planId)
      | some plan => .ok (plan.view (Service.payFirst (s.installmentsOf plan.id))) :=
  (serve_value _).trans ((State.shows h).complete planId request).1

lemma serve_complete_state (h : ∀ plan ∈ s.plans, plan.id ∈ s.schedules) (planId : Identifier)
    (request : CompletionRequest) :
    (s.serve sources (Service.complete planId request)).state = s :=
  (serve_state _).trans ((State.shows h).complete planId request).2

/-! ## Writing -/

/-- The identifier that the next plan gets: the one that is wished for, or a fresh one. -/
def State.chosen (sources : Sources) (s : State) : Option Identifier → Except String Identifier
  | some id => .ok id
  | none => sources.identifier s.drawn

/-- How many identifiers are drawn once the next plan has got its own. -/
def State.drawnAfter (s : State) (wished : Option Identifier) : Nat :=
  if wished.isSome then s.drawn else s.drawn + 1

/-- A plan gets no identifier only if a fresh one is refused. -/
lemma identifier_of_chosen_eq_error {wished : Option Identifier} {reason : String}
    (h : s.chosen sources wished = .error reason) : sources.identifier s.drawn = .error reason := by
  cases wished with
  | none => exact h
  | some id => exact nomatch h

/-- An amount that cannot be read is refused before anything else happens. -/
lemma answer_of_badAmount {c : Repository.Call} {text : String} {fault : Amount.Fault}
    (hc : c.amount? = some text) (h : Amount.ofText text = .error fault) :
    State.answer sources c s = (.error (.badAmount text fault), s) := by
  cases c with
  | createPlan new =>
    obtain rfl : new.amount = text := Option.some.inj hc
    simp [State.answer, State.run, respond, createPlan, readAmount_eq_error h, Program.run]
  | createInstallment new =>
    obtain rfl : new.amount = text := Option.some.inj hc
    simp [State.answer, State.run, respond, createInstallment, readAmount_eq_error h, Program.run]
  | listPlans | listInstallments => cases hc

section Plan

variable {new : NewPlan} {amount : Amount} (hamount : Amount.ofText new.amount = .ok amount)
include hamount

lemma answer_createPlan_of_chosen_eq_error {reason : String}
    (h : s.chosen sources new.id = .error reason) :
    State.answer sources (.createPlan new) s =
      (.error (.noIdentifier reason), { s with drawn := s.drawn + 1 }) := by
  cases hwished : new.id with
  | none =>
    rw [hwished] at h
    have hdrawn : sources.identifier s.drawn = .error reason := h
    simp [State.answer, State.run, respond, createPlan, readAmount_eq_ok hamount, hwished,
      chooseIdentifier, drawIdentifier, Program.run, State.execute, hdrawn]
  | some id =>
    rw [hwished] at h
    cases h

/-- A plan is stored unless its identifier is taken. -/
lemma answer_createPlan {id : Identifier} (hid : s.chosen sources new.id = .ok id) :
    State.answer sources (.createPlan new) s =
      let now := sources.time s.ticks
      let plan : Plan := ⟨id, new.userId, new.currency, amount, new.status, now, now⟩
      let s' := { s with drawn := s.drawnAfter new.id, ticks := s.ticks + 1 }
      if id ∈ s.schedules then (.error (duplicate id), s')
      else
        (.ok plan, { s' with plans := s.plans ++ [plan], schedules := s.schedules ++ [id] }) := by
  cases hwished : new.id with
  | none =>
    rw [hwished] at hid
    have hdrawn : sources.identifier s.drawn = .ok id := hid
    by_cases hopen : id ∈ s.schedules <;>
      simp [State.answer, State.run, respond, createPlan, readAmount_eq_ok hamount, hwished,
        chooseIdentifier, drawIdentifier, readClock, openSchedule, addPlan, Program.run,
        State.execute, State.drawnAfter, hdrawn, hopen]
  | some wished =>
    rw [hwished] at hid
    obtain rfl : wished = id := Except.ok.inj hid
    by_cases hopen : wished ∈ s.schedules <;>
      simp [State.answer, State.run, respond, createPlan, readAmount_eq_ok hamount, hwished,
        chooseIdentifier, readClock, openSchedule, addPlan, Program.run, State.execute,
        State.drawnAfter, hopen]

end Plan

section Installment

variable {new : NewInstallment} {amount : Amount} (hamount : Amount.ofText new.amount = .ok amount)
include hamount

lemma answer_createInstallment_of_identifier_eq_error {reason : String}
    (h : sources.identifier s.drawn = .error reason) :
    State.answer sources (.createInstallment new) s =
      (.error (.noIdentifier reason), { s with drawn := s.drawn + 1 }) := by
  simp [State.answer, State.run, respond, createInstallment, readAmount_eq_ok hamount,
    drawIdentifier, Program.run, State.execute, h]

/-- An installment is stored, whether there is a plan of its identifier or not. -/
lemma answer_createInstallment {id : Identifier} (hid : sources.identifier s.drawn = .ok id) :
    State.answer sources (.createInstallment new) s =
      let now := sources.time s.ticks
      let i : Installment :=
        ⟨id, new.planId, new.currency, amount, new.dueAt, new.status, now, now⟩
      (.ok i, { s with
        schedules := if new.planId ∈ s.schedules then s.schedules else s.schedules ++ [new.planId]
        installments := s.installments ++ [i]
        drawn := s.drawn + 1
        ticks := s.ticks + 1 }) := by
  simp [State.answer, State.run, respond, createInstallment, readAmount_eq_ok hamount,
    drawIdentifier, readClock, addInstallment, Program.run, State.execute, hid]

end Installment

/-- Sources whose identifiers are never refused. -/
def Sources.unfailing (fresh : Nat → Identifier) (time : Nat → Instant) : Sources where
  identifier n := .ok (fresh n)
  time := time

lemma chosen_unfailing {fresh : Nat → Identifier} {time : Nat → Instant}
    (wished : Option Identifier) :
    s.chosen (Sources.unfailing fresh time) wished = .ok (wished.getD (fresh s.drawn)) := by
  cases wished <;> rfl

end PaymentPlans.Memory
