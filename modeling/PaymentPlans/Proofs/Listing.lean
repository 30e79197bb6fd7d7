/-
# What a listing gives

A listing is run against a repository that may answer anything.  It asks for the plans of a user,
and then for the schedule of one plan after the other, until one is refused; it asks for nothing
else, and it stores nothing.  It gives either one view for each plan or no view at all, and its
error says that nothing was found only if there was no plan: a plan without a schedule is not the
same as a user without plans.
-/
import Mathlib.Tactic.Common
import PaymentPlans.Service

namespace PaymentPlans.Service

open Program (Exchange run exchanges)
open Repository

variable {σ : Type} (answer : (c : Call) → σ → Answer c × σ)

/-- What a repository answers when it is asked for the schedules of all these plans, one after the
other, whether one of them is refused or not. -/
def schedulesOf : List Plan → σ → List (Except RepositoryError (List Installment))
  | [], _ => []
  | plan :: plans, s =>
    let reply := answer (.listInstallments plan.id) s
    reply.1 :: schedulesOf plans reply.2

/-- The exchanges in which a repository lists the schedules of plans. -/
def shown (plans : List Plan) (schedules : List (List Installment)) : List (Exchange Answer) :=
  List.zipWith (fun plan installments => ⟨.listInstallments plan.id, .ok installments⟩)
    plans schedules

lemma mem_shown {plans : List Plan} {schedules : List (List Installment)} {x : Exchange Answer}
    (hx : x ∈ shown plans schedules) :
    ∃ plan ∈ plans, ∃ installments, x = ⟨.listInstallments plan.id, .ok installments⟩ := by
  rw [shown, ← List.map_uncurry_zip_eq_zipWith] at hx
  obtain ⟨⟨plan, installments⟩, hpair, rfl⟩ := List.mem_map.1 hx
  exact ⟨plan, (List.of_mem_zip hpair).1, installments, rfl⟩

/-! ## The schedules -/

/-- How the views of plans go on with the schedule of the first of them. -/
def viewRest (plan : Plan) (plans : List Plan) : Except RepositoryError (List Installment) →
    RepositoryProgram (Except ServiceError (List PlanView))
  | .error e => .done (.error (.installmentsNotListed plan.id e))
  | .ok installments =>
    (viewAll plans).bind fun ended => .done (ended.map (plan.view installments :: ·))

lemma viewAll_cons (plan : Plan) (plans : List Plan) :
    viewAll (plan :: plans) = .call (.listInstallments plan.id) (viewRest plan plans) := by
  refine congrArg (Program.call _) (funext fun reply => ?_)
  cases reply with
  | error e => rfl
  | ok installments =>
    simp only [viewRest, Program.done_bind, Program.bind_eq_bind, Program.pure_eq_done]
    refine congrArg (Program.bind _) (funext fun ended => ?_)
    cases ended <;> rfl

/-- How an attempt to view plans goes: either all schedules are listed, or the first that is not
ends it. -/
lemma viewAll_exchanges (plans : List Plan) (s : σ) :
    let p := viewAll plans
    (∃ schedules, schedules.length = plans.length ∧
      schedulesOf answer plans s = schedules.map .ok ∧
      p.exchanges answer s = shown plans schedules ∧
      (p.run answer s).value = .ok (List.zipWith Plan.view plans schedules)) ∨
    (∃ front plan later schedules e, plans = front ++ plan :: later ∧
      schedules.length = front.length ∧
      .error e ∈ schedulesOf answer plans s ∧
      p.exchanges answer s = shown front schedules ++ [⟨.listInstallments plan.id, .error e⟩] ∧
      (p.run answer s).value = .error (.installmentsNotListed plan.id e)) := by
  induction plans generalizing s with
  | nil => exact Or.inl ⟨[], rfl, rfl, rfl, rfl⟩
  | cons plan plans ih =>
    simp only [viewAll_cons, exchanges, run, schedulesOf]
    rcases answer (.listInstallments plan.id) s with ⟨reply, s'⟩
    cases reply with
    | error e =>
      -- The first refusal: no schedule is shown.
      exact Or.inr ⟨[], plan, plans, [], e, rfl, rfl, List.mem_cons_self, rfl, rfl⟩
    | ok installments =>
      -- One more is shown, and the rest goes as it goes.
      simp only [viewRest, Program.exchanges_bind, Program.run_bind, run, exchanges,
        List.append_nil]
      rcases ih s' with ⟨schedules, hlength, hasked, hex, hval⟩ |
        ⟨front, refused, later, schedules, e, hplans, hlength, hasked, hex, hval⟩
      · refine Or.inl ⟨installments :: schedules, congrArg (· + 1) hlength, ?_, ?_, ?_⟩
        · rw [hasked]
          rfl
        · rw [hex]
          rfl
        · rw [hval]
          rfl
      · refine Or.inr ⟨plan :: front, refused, later, installments :: schedules, e,
          congrArg (plan :: ·) hplans, congrArg (· + 1) hlength, List.mem_cons_of_mem _ hasked,
          ?_, ?_⟩
        · rw [hex]
          rfl
        · rw [hval]
          rfl

/-- Plans are viewed exactly when all of their schedules are listed. -/
lemma viewAll_eq_ok_iff (plans : List Plan) (s : σ) (views : List PlanView) :
    ((viewAll plans).run answer s).value = .ok views ↔
      ∃ schedules, schedulesOf answer plans s = schedules.map .ok ∧
        views = List.zipWith Plan.view plans schedules := by
  rcases viewAll_exchanges answer plans s with ⟨schedules, -, hasked, -, hval⟩ |
    ⟨_, refused, _, _, e, -, -, hasked, -, hval⟩
  · rw [hval, hasked]
    constructor
    · rintro ⟨⟩
      exact ⟨schedules, rfl, rfl⟩
    · rintro ⟨others, hsame, rfl⟩
      rw [(List.map_inj_right fun _ _ => Except.ok.inj).1 hsame]
  · rw [hval]
    refine ⟨nofun, ?_⟩
    rintro ⟨schedules, hall, -⟩
    rw [hall] at hasked
    obtain ⟨_, -, hok⟩ := List.mem_map.1 hasked
    exact nomatch hok

/-- A schedule that is not found does not make its plan unfound. -/
lemma isNotFound_of_viewAll {plans : List Plan} {s : σ} {e : ServiceError}
    (h : ((viewAll plans).run answer s).value = .error e) : e.isNotFound = false := by
  rcases viewAll_exchanges answer plans s with ⟨_, -, -, -, hval⟩ |
    ⟨_, _, _, _, _, -, -, -, -, hval⟩
  · exact nomatch hval.symm.trans h
  · obtain rfl := Except.error.inj (hval.symm.trans h)
    rfl

/-! ## The whole listing -/

/-- What a listing asks a repository for, with the answers, and what it ends with. -/
inductive Listed (userId : Identifier) :
    List (Exchange Answer) → Except ServiceError (List PlanView) → Prop where
  /-- There are no plans, and nothing else is asked for. -/
  | noPlans (reply : Except RepositoryError (List Plan))
      (none : reply = .ok [] ∨ ∃ entity key, reply = .error (.notFound entity key)) :
      Listed userId [⟨.listPlans userId, reply⟩] (.error (.noPlans userId))
  /-- The plans are refused, and nothing else is asked for. -/
  | refused (e : RepositoryError) (found : ∀ entity key, e ≠ .notFound entity key) :
      Listed userId [⟨.listPlans userId, .error e⟩] (.error (.plansNotListed userId e))
  /-- The schedules of some plans are listed, but not that of the next one. -/
  | cut (front : List Plan) (plan : Plan) (later : List Plan)
      (schedules : List (List Installment)) (e : RepositoryError)
      (before : schedules.length = front.length) :
      Listed userId
        (⟨.listPlans userId, .ok (front ++ plan :: later)⟩ :: shown front schedules ++
          [⟨.listInstallments plan.id, .error e⟩])
        (.error (.installmentsNotListed plan.id e))
  /-- All schedules are listed. -/
  | whole (plans : List Plan) (schedules : List (List Installment)) (some : plans ≠ [])
      (all : schedules.length = plans.length) :
      Listed userId (⟨.listPlans userId, .ok plans⟩ :: shown plans schedules)
        (.ok (List.zipWith Plan.view plans schedules))

/-- How a listing goes on with the answer to its first call. -/
def viewListed (userId : Identifier) : Except RepositoryError (List Plan) →
    RepositoryProgram (Except ServiceError (List PlanView))
  | .error e => .done (.error (listingError userId e))
  | .ok [] => .done (.error (.noPlans userId))
  | .ok (plan :: plans) => viewAll (plan :: plans)

lemma list_eq_call (userId : Identifier) :
    list userId = .note (.loadingPlans userId) (.call (.listPlans userId) (viewListed userId)) := by
  refine congrArg (Program.note _) (congrArg (Program.call _) (funext fun reply => ?_))
  rcases reply with e | _ | ⟨plan, plans⟩ <;> rfl

lemma listed (userId : Identifier) (s : σ) :
    Listed userId ((list userId).exchanges answer s) ((list userId).run answer s).value := by
  rw [list_eq_call, exchanges, exchanges, run, run]
  rcases answer (.listPlans userId) s with ⟨reply, s'⟩
  rcases reply with e | _ | ⟨plan, plans⟩
  · cases e with
    | notFound entity key => exact .noPlans _ (Or.inr ⟨entity, key, rfl⟩)
    | _ => exact .refused _ fun _ _ hfound => by cases hfound
  · exact .noPlans _ (Or.inl rfl)
  · simp only [viewListed]
    rcases viewAll_exchanges answer (plan :: plans) s' with ⟨schedules, hlength, -, hex, hval⟩ |
      ⟨front, refused, later, schedules, e, hplans, hlength, -, hex, hval⟩
    · rw [hex, hval]
      exact .whole _ schedules (List.cons_ne_nil _ _) hlength
    · rw [hex, hval, hplans]
      exact .cut front refused later schedules e hlength

/-- A listing gives views exactly when there are plans and every one of their schedules is listed,
and then it gives one view for each plan. -/
lemma list_eq_ok_iff (userId : Identifier) (s : σ) (views : List PlanView) :
    ((list userId).run answer s).value = .ok views ↔
      ∃ plans schedules, (answer (.listPlans userId) s).1 = .ok plans ∧ plans ≠ [] ∧
        schedulesOf answer plans (answer (.listPlans userId) s).2 = schedules.map .ok ∧
        views = List.zipWith Plan.view plans schedules := by
  rw [list_eq_call, run, run]
  rcases answer (.listPlans userId) s with ⟨reply, s'⟩
  rcases reply with e | _ | ⟨plan, plans⟩
  · simp [viewListed, run]
  · simp [viewListed, run]
  · simp only [viewListed, viewAll_eq_ok_iff, Except.ok.injEq]
    constructor
    · rintro ⟨schedules, hasked, rfl⟩
      exact ⟨_, schedules, rfl, List.cons_ne_nil _ _, hasked, rfl⟩
    · rintro ⟨_, schedules, rfl, -, hasked, rfl⟩
      exact ⟨schedules, hasked, rfl⟩

/-- A listing is never empty. -/
lemma Listed.ne_nil {userId : Identifier} {exchanges : List (Exchange Answer)}
    {value : Except ServiceError (List PlanView)} (h : Listed userId exchanges value) :
    value ≠ .ok [] := by
  cases h with
  | noPlans | refused | cut => exact nofun
  | whole plans schedules some all =>
    intro hempty
    have hlength := congrArg List.length (Except.ok.inj hempty)
    rw [List.length_zipWith, all, Nat.min_self] at hlength
    exact some (List.length_eq_zero_iff.1 hlength)

/-- What a listing asks for is never to store anything. -/
lemma Listed.filterMap_amount? {userId : Identifier} {exchanges : List (Exchange Answer)}
    {value : Except ServiceError (List PlanView)} (h : Listed userId exchanges value) :
    exchanges.filterMap (·.1.amount?) = [] := by
  have hshown : ∀ plans schedules, (shown plans schedules).filterMap (·.1.amount?) = [] := by
    intro plans schedules
    refine List.filterMap_eq_nil_iff.2 fun x hx => ?_
    obtain ⟨_, -, _, rfl⟩ := mem_shown hx
    rfl
  cases h with
  | noPlans | refused => rfl
  | cut front plan later schedules e before =>
    rw [List.cons_append, List.filterMap_cons_none rfl, List.filterMap_append, hshown]
    rfl
  | whole plans schedules some all => rw [List.filterMap_cons_none rfl, hshown]

/-- The error of a listing says that nothing was found exactly when there was no plan. -/
lemma list_isNotFound_iff (userId : Identifier) (s : σ) :
    (∃ e, ((list userId).run answer s).value = .error e ∧ e.isNotFound) ↔
      (answer (.listPlans userId) s).1 = .ok [] ∨
        ∃ entity key, (answer (.listPlans userId) s).1 = .error (.notFound entity key) := by
  rw [list_eq_call, run, run]
  rcases answer (.listPlans userId) s with ⟨reply, s'⟩
  rcases reply with e | _ | ⟨plan, plans⟩
  · cases e <;> simp [viewListed, run, listingError, RepositoryError.isNotFound,
      ServiceError.isNotFound]
  · simp [viewListed, run, ServiceError.isNotFound]
  · -- There are plans, and only their schedules may be refused.
    constructor
    · rintro ⟨e, he, hfound⟩
      rw [isNotFound_of_viewAll answer he] at hfound
      cases hfound
    · rintro (hnone | ⟨_, _, hnone⟩) <;> cases hnone

/-- **A listing is all or nothing**, whatever a repository answers.  It asks for the plans of its
user and then for their schedules, in their order and up to the first that is refused, and for
nothing else, least of all to store anything.  It gives views exactly when there are plans and all
their schedules are listed: one view for each plan, and so never an empty list.  Its error says
that nothing was found exactly when the plans were none or not found. -/
theorem list_is_all_or_nothing (userId : Identifier) (s : σ) :
    let reply := answer (.listPlans userId) s
    let asked := (list userId).exchanges answer s
    let value := ((list userId).run answer s).value
    Listed userId asked value ∧
      (∀ views, value = .ok views ↔
        ∃ plans schedules, reply.1 = .ok plans ∧ plans ≠ [] ∧
          schedulesOf answer plans reply.2 = schedules.map .ok ∧
          views = List.zipWith Plan.view plans schedules) ∧
      value ≠ .ok [] ∧
      ((∃ e, value = .error e ∧ e.isNotFound) ↔
        reply.1 = .ok [] ∨ ∃ entity key, reply.1 = .error (.notFound entity key)) ∧
      asked.filterMap (·.1.amount?) = [] := by
  have hlisted := listed answer userId s
  exact ⟨hlisted, list_eq_ok_iff answer userId s, hlisted.ne_nil,
    list_isNotFound_iff answer userId s, hlisted.filterMap_amount?⟩

end PaymentPlans.Service
