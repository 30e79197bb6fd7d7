/-
# What a call does to a store

A call to a store in memory does one of a few things, and its answer tells which: it is refused,
for one of three reasons, it stores a plan or an installment, or it lists what is there.  What
is to be shown of all calls is shown by these cases.
-/
import PaymentPlans.Proofs.Memory.Calls

namespace PaymentPlans.Memory

open Repository (Call Answer)

variable {sources : Sources} {s : State}

/-- What a call does to a store, with its answer and the store that it leaves. -/
inductive Effect (sources : Sources) (s : State) : (c : Call) → Answer c → State → Prop where
  /-- The amount to be stored cannot be read. -/
  | badAmount {c : Call} {text : String} {fault : Amount.Fault} (stores : c.amount? = some text)
      (unread : Amount.ofText text = .error fault) :
      Effect sources s c (.error (.badAmount text fault)) s
  /-- There is no fresh identifier. -/
  | noIdentifier {c : Call} {text : String} {amount : Amount} {reason : String}
      (stores : c.amount? = some text) (read : Amount.ofText text = .ok amount)
      (refused : sources.identifier s.drawn = .error reason) :
      Effect sources s c (.error (.noIdentifier reason)) { s with drawn := s.drawn + 1 }
  /-- The identifier of a plan is taken. -/
  | duplicate {new : NewPlan} {amount : Amount} {id : Identifier}
      (read : Amount.ofText new.amount = .ok amount) (chosen : s.chosen sources new.id = .ok id)
      (taken : id ∈ s.schedules) :
      Effect sources s (.createPlan new) (.error (Memory.duplicate id))
        { s with drawn := s.drawnAfter new.id, ticks := s.ticks + 1 }
  /-- A plan is stored, and with it an empty schedule. -/
  | planStored {new : NewPlan} {amount : Amount} {plan : Plan}
      (read : Amount.ofText new.amount = .ok amount)
      (chosen : s.chosen sources new.id = .ok plan.id) (free : plan.id ∉ s.schedules)
      (fulfils : plan = ⟨plan.id, new.userId, new.currency, amount, new.status,
        sources.time s.ticks, sources.time s.ticks⟩) :
      Effect sources s (.createPlan new) (.ok plan)
        { s with
          plans := s.plans ++ [plan]
          schedules := s.schedules ++ [plan.id]
          drawn := s.drawnAfter new.id
          ticks := s.ticks + 1 }
  /-- An installment is stored, and there is a schedule under its plan's identifier then. -/
  | installmentStored {new : NewInstallment} {amount : Amount} {i : Installment}
      (read : Amount.ofText new.amount = .ok amount)
      (drawn : sources.identifier s.drawn = .ok i.id)
      (fulfils : i = ⟨i.id, new.planId, new.currency, amount, new.dueAt, new.status,
        sources.time s.ticks, sources.time s.ticks⟩) :
      Effect sources s (.createInstallment new) (.ok i)
        { s with
          schedules := if new.planId ∈ s.schedules then s.schedules
            else s.schedules ++ [new.planId]
          installments := s.installments ++ [i]
          drawn := s.drawn + 1
          ticks := s.ticks + 1 }
  /-- The plans of a user are listed. -/
  | plansListed {userId : Identifier} (some : s.plansOf userId ≠ []) :
      Effect sources s (.listPlans userId) (.ok (s.plansOf userId)) s
  /-- There are no plans of a user. -/
  | noPlans {userId : Identifier} (none : s.plansOf userId = []) :
      Effect sources s (.listPlans userId) (.error (.notFound "payment plan" userId)) s
  /-- A schedule is listed. -/
  | scheduleListed {planId : Identifier} (opened : planId ∈ s.schedules) :
      Effect sources s (.listInstallments planId) (.ok (s.installmentsOf planId)) s
  /-- There is no schedule under an identifier. -/
  | noSchedule {planId : Identifier} (unopened : planId ∉ s.schedules) :
      Effect sources s (.listInstallments planId)
        (.error (.notFound "payment installment" planId)) s

/-- Storing an installment opens a schedule unless there is one. -/
lemma mem_opened_iff {schedules : List Identifier} {planId id : Identifier} :
    id ∈ (if planId ∈ schedules then schedules else schedules ++ [planId]) ↔
      id ∈ schedules ∨ id = planId := by
  by_cases hopen : planId ∈ schedules
  · rw [if_pos hopen]
    refine ⟨Or.inl, ?_⟩
    rintro (hid | rfl)
    · exact hid
    · exact hopen
  · rw [if_neg hopen, List.mem_append, List.mem_singleton]

/-- Nothing but what is an effect ever happens. -/
theorem effect (sources : Sources) (c : Call) (s : State) :
    Effect sources s c (State.answer sources c s).1 (State.answer sources c s).2 := by
  cases c with
  | createPlan new =>
    cases hamount : Amount.ofText new.amount with
    | error fault =>
      rw [answer_of_badAmount rfl hamount]
      exact .badAmount rfl hamount
    | ok amount =>
      cases hid : s.chosen sources new.id with
      | error reason =>
        rw [answer_createPlan_of_chosen_eq_error hamount hid]
        exact .noIdentifier rfl hamount (identifier_of_chosen_eq_error hid)
      | ok id =>
        rw [answer_createPlan hamount hid]
        by_cases htaken : id ∈ s.schedules
        · simp only [if_pos htaken]
          exact .duplicate hamount hid htaken
        · simp only [if_neg htaken]
          exact .planStored hamount hid htaken rfl
  | createInstallment new =>
    cases hamount : Amount.ofText new.amount with
    | error fault =>
      rw [answer_of_badAmount rfl hamount]
      exact .badAmount rfl hamount
    | ok amount =>
      cases hid : sources.identifier s.drawn with
      | error reason =>
        rw [answer_createInstallment_of_identifier_eq_error hamount hid]
        exact .noIdentifier rfl hamount hid
      | ok id =>
        rw [answer_createInstallment hamount hid]
        exact .installmentStored hamount hid rfl
  | listPlans userId =>
    rw [answer_listPlans]
    by_cases hempty : s.plansOf userId = []
    · simp only [if_pos hempty]
      exact .noPlans hempty
    · simp only [if_neg hempty]
      exact .plansListed hempty
  | listInstallments planId =>
    rw [answer_listInstallments]
    by_cases hopen : planId ∈ s.schedules
    · simp only [if_pos hopen]
      exact .scheduleListed hopen
    · simp only [if_neg hopen]
      exact .noSchedule hopen

lemma effect_of_answer_eq {c : Call} {a : Answer c} {s' : State}
    (h : State.answer sources c s = (a, s')) : Effect sources s c a s' := by
  have heffect := effect sources c s
  rwa [h] at heffect

end PaymentPlans.Memory
