/-
# Who stored what

At any moment each operation has come some way, and what a store holds is what the operations
stored so far: each plan with its schedule belongs to the one operation that claimed its
identifier.  A section that an operation may execute keeps it so, because a free identifier can be
claimed only once, and nothing is stored under an identifier before it is claimed.
-/
import Mathlib.Logic.Function.Basic
import PaymentPlans.Memory.Traffic
import PaymentPlans.Proofs.Memory.Course

namespace PaymentPlans.Memory

variable {sources : Sources} {s : State} {executed : List Executed} {progress : Nat → Progress}
variable {n : Nat}

@[simp] lemma claimants_append (id : Identifier) (earlier later : List Executed) :
    claimants id (earlier ++ later) = claimants id earlier ++ claimants id later := by
  simp [claimants]

lemma claimants_openSchedule (id other : Identifier) :
    claimants id [⟨n, .openSchedule other, true⟩] = if other = id then [n] else [] := by
  by_cases hid : other = id <;> simp [claimants, Executed.claims, hid]

lemma State.installmentsOf_append (s : State) (i : Installment) (id : Identifier)
    (schedules : List Identifier) :
    State.installmentsOf { s with schedules, installments := s.installments ++ [i] } id =
      s.installmentsOf id ++ if i.planId = id then [i] else [] := by
  by_cases hid : i.planId = id <;> simp [State.installmentsOf, hid]

/-- What an operation does not lose on its way is as it was for all of them. -/
lemma apply_update {β : Type} (f : Progress → β) {new : Progress} (h : f new = f (progress n))
    (m : Nat) : f (Function.update progress n new m) = f (progress m) := by
  by_cases hmn : m = n
  · subst hmn
    rw [Function.update_self, h]
  · rw [Function.update_of_ne hmn]

/-- What a store holds is what the operations stored, which have come so far. -/
structure Books (executed : List Executed) (s : State) (progress : Nat → Progress) : Prop where
  /-- Each schedule is that of an operation. -/
  opened : ∀ id ∈ s.schedules, ∃ n, (progress n).planId? = some id
  /-- An identifier that is claimed has a schedule. -/
  schedule : ∀ n id, (progress n).planId? = some id → id ∈ s.schedules
  /-- An identifier is claimed once. -/
  claimed : ∀ n id, (progress n).planId? = some id → claimants id executed = [n]
  /-- An identifier without a schedule is free. -/
  free : ∀ id, id ∉ s.schedules → claimants id executed = []
  /-- A schedule is what its operation stored of it. -/
  installments : ∀ n id, (progress n).planId? = some id →
    s.installmentsOf id = (progress n).installments
  /-- The plans are those that the operations stored. -/
  plans : ∀ plan, plan ∈ s.plans ↔ ∃ n, (progress n).plan? = some plan
  /-- No two plans have the same identifier. -/
  nodup : (s.plans.map Plan.id).Nodup
  /-- The installments belong to schedules. -/
  belongs : ∀ i ∈ s.installments, i.planId ∈ s.schedules

namespace Books

lemma empty : Books [] {} fun _ => .nothing where
  opened := by simp
  schedule := nofun
  claimed := nofun
  free := fun _ _ => rfl
  installments := nofun
  plans := by simp [Progress.plan?]
  nodup := List.nodup_nil
  belongs := by simp

variable (h : Books executed s progress)
include h

/-- No two operations claimed the same identifier. -/
lemma unique {m : Nat} {id : Identifier} (hm : (progress m).planId? = some id)
    (hn : (progress n).planId? = some id) : m = n := by
  have hclaimed := (h.claimed m id hm).symm.trans (h.claimed n id hn)
  exact List.singleton_inj.1 hclaimed

lemma mem_schedules {plan : Plan} (hplan : plan ∈ s.plans) : plan.id ∈ s.schedules := by
  obtain ⟨n, hn⟩ := (h.plans plan).1 hplan
  exact h.schedule n plan.id (Progress.planId?_of_plan? hn)

/-- A section that claims and stores nothing changes nothing. -/
lemma idle (s' : State) (x : Executed) (hx : ∀ id, x.claims id = false)
    (hplans : s'.plans = s.plans) (hschedules : s'.schedules = s.schedules)
    (hinstallments : s'.installments = s.installments) : Books (executed ++ [x]) s' progress where
  opened := hschedules ▸ h.opened
  schedule := hschedules ▸ h.schedule
  claimed n id hn := by simpa [claimants, hx] using h.claimed n id hn
  free id hid := by simpa [claimants, hx] using h.free id (hschedules ▸ hid)
  installments n id hn := by
    rw [State.installmentsOf, hinstallments]
    exact h.installments n id hn
  plans := hplans ▸ h.plans
  nodup := hplans ▸ h.nodup
  belongs := hschedules ▸ hinstallments ▸ h.belongs

/-- A free identifier is claimed: nobody else claimed it, and nothing is stored under it. -/
lemma openSchedule {id : Identifier} (hn : progress n = .nothing) (hid : id ∉ s.schedules) :
    Books (executed ++ [⟨n, .openSchedule id, true⟩])
      { s with schedules := s.schedules ++ [id] } (Function.update progress n (.claimed id)) := by
  have hother : ∀ m other, (progress m).planId? = some other → m ≠ n ∧ id ≠ other := by
    intro m other hm
    constructor
    · rintro rfl
      rw [hn] at hm
      exact nomatch hm
    · rintro rfl
      exact hid (h.schedule m id hm)
  have hplanId : ∀ m other, (Function.update progress n (.claimed id) m).planId? = some other →
      m = n ∧ id = other ∨ m ≠ n ∧ id ≠ other ∧ (progress m).planId? = some other := by
    intro m other hm
    by_cases hmn : m = n
    · subst hmn
      rw [Function.update_self] at hm
      exact Or.inl ⟨rfl, Option.some.inj hm⟩
    · rw [Function.update_of_ne hmn] at hm
      exact Or.inr ⟨hmn, (hother m other hm).2, hm⟩
  constructor
  · -- The new schedule is that of the operation that claimed it.
    intro other hmem
    rcases List.mem_append.1 hmem with hmem | hmem
    · obtain ⟨m, hm⟩ := h.opened other hmem
      exact ⟨m, by rwa [Function.update_of_ne (hother m other hm).1]⟩
    · obtain rfl := List.mem_singleton.1 hmem
      exact ⟨n, by rw [Function.update_self]; rfl⟩
  · -- What is claimed has a schedule.
    intro m other hm
    rcases hplanId m other hm with ⟨-, rfl⟩ | ⟨-, -, hm⟩
    · exact List.mem_concat_self
    · exact List.mem_append_left _ (h.schedule m other hm)
  · -- It is claimed once: nobody had claimed an identifier that was free.
    intro m other hm
    rw [claimants_append, claimants_openSchedule]
    rcases hplanId m other hm with ⟨rfl, rfl⟩ | ⟨-, hne, hm⟩
    · rw [h.free id hid, if_pos rfl, List.nil_append]
    · rw [if_neg hne, List.append_nil, h.claimed m other hm]
  · -- What is still free was not claimed now.
    intro other hmem
    rw [List.mem_append, List.mem_singleton, not_or] at hmem
    rw [claimants_append, claimants_openSchedule, h.free other hmem.1, if_neg (Ne.symm hmem.2)]
    rfl
  · -- Nothing is stored under an identifier that was free.
    intro m other hm
    rcases hplanId m other hm with ⟨rfl, rfl⟩ | ⟨hmn, -, hm⟩
    · rw [Function.update_self]
      refine List.filter_eq_nil_iff.2 fun i hi => ?_
      rw [decide_eq_true_eq]
      rintro rfl
      exact hid (h.belongs i hi)
    · rw [Function.update_of_ne hmn]
      exact h.installments m other hm
  · -- The plans are the same, and an operation that only claims has none.
    intro plan
    rw [h.plans plan]
    refine exists_congr fun m => ?_
    by_cases hmn : m = n
    · subst hmn
      rw [Function.update_self, hn]
      rfl
    · rw [Function.update_of_ne hmn]
  · exact h.nodup
  · exact fun i hi => List.mem_append_left _ (h.belongs i hi)

/-- A plan is added under the identifier that its operation claimed. -/
lemma addPlan {plan : Plan} (hn : progress n = .claimed plan.id) :
    Books (executed ++ [⟨n, .addPlan plan, ()⟩]) { s with plans := s.plans ++ [plan] }
      (Function.update progress n (.stored plan [])) := by
  have hplanId : ∀ m, (Function.update progress n (.stored plan []) m).planId? =
      (progress m).planId? := apply_update Progress.planId? (by rw [hn]; rfl)
  have hidle := h.idle s ⟨n, .addPlan plan, ()⟩ (fun _ => rfl) rfl rfl rfl
  have hother : ∀ m other, (progress m).plan? = some other → m ≠ n := by
    rintro m other hm rfl
    rw [hn] at hm
    exact nomatch hm
  -- A plan of the same identifier would have been stored by another operation, which would have
  -- claimed it as well.
  have hfree : plan.id ∉ s.plans.map Plan.id := by
    intro hmem
    obtain ⟨other, hmem, hid⟩ := List.mem_map.1 hmem
    obtain ⟨m, hm⟩ := (h.plans other).1 hmem
    refine hother m other hm (h.unique (Progress.planId?_of_plan? hm) ?_)
    rw [hn, hid]
    rfl
  constructor
  · simpa only [hplanId] using h.opened
  · simpa only [hplanId] using h.schedule
  · simpa only [hplanId] using hidle.claimed
  · exact hidle.free
  · -- The schedule of the new plan is empty, as it was when it was claimed.
    intro m id hm
    rw [hplanId] at hm
    by_cases hmn : m = n
    · subst hmn
      rw [Function.update_self]
      refine (h.installments m id hm).trans ?_
      rw [hn]
      rfl
    · rw [Function.update_of_ne hmn]
      exact h.installments m id hm
  · -- The plans are those that were there and the new one.
    intro other
    rw [List.mem_append, List.mem_singleton, h.plans other]
    constructor
    · rintro (⟨m, hm⟩ | rfl)
      · exact ⟨m, by rwa [Function.update_of_ne (hother m other hm)]⟩
      · exact ⟨n, by rw [Function.update_self]; rfl⟩
    · rintro ⟨m, hm⟩
      by_cases hmn : m = n
      · subst hmn
        rw [Function.update_self] at hm
        exact Or.inr (Option.some.inj hm).symm
      · rw [Function.update_of_ne hmn] at hm
        exact Or.inl ⟨m, hm⟩
  · rw [List.map_append, List.map_singleton, List.nodup_append_comm]
    exact List.nodup_cons.2 ⟨hfree, h.nodup⟩
  · exact h.belongs

/-- An installment is added to the plan that its operation stored. -/
lemma addInstallment {plan : Plan} {is : List Installment} {i : Installment}
    (hn : progress n = .stored plan is) (hi : i.planId = plan.id) :
    Books (executed ++ [⟨n, .addInstallment i, ()⟩])
      { s with installments := s.installments ++ [i] }
      (Function.update progress n (.stored plan (is ++ [i]))) := by
  have hidle := h.idle s ⟨n, .addInstallment i, ()⟩ (fun _ => rfl) rfl rfl rfl
  have hplan : ∀ m, (Function.update progress n (.stored plan (is ++ [i])) m).plan? =
      (progress m).plan? := apply_update Progress.plan? (by rw [hn]; rfl)
  have hplanId : ∀ m, (Function.update progress n (.stored plan (is ++ [i])) m).planId? =
      (progress m).planId? := apply_update Progress.planId? (by rw [hn]; rfl)
  have hown : (progress n).planId? = some i.planId := by
    rw [hn, hi]
    rfl
  constructor
  · simpa only [hplanId] using h.opened
  · simpa only [hplanId] using h.schedule
  · simpa only [hplanId] using hidle.claimed
  · exact hidle.free
  · -- The installment goes to the schedule of its own plan only.
    intro m id hm
    rw [hplanId] at hm
    rw [State.installmentsOf_append s i id s.schedules, h.installments m id hm]
    by_cases hmn : m = n
    · subst hmn
      have hid : i.planId = id := Option.some.inj (hown.symm.trans hm)
      rw [Function.update_self, if_pos hid, hn]
      rfl
    · have hid : i.planId ≠ id := by
        rintro rfl
        exact hmn (h.unique hm hown)
      rw [Function.update_of_ne hmn, if_neg hid, List.append_nil]
  · simpa only [hplan] using h.plans
  · exact h.nodup
  · intro other hother
    rcases List.mem_append.1 hother with hother | hother
    · exact h.belongs other hother
    · obtain rfl := List.mem_singleton.1 hother
      exact h.schedule n other.planId hown

/-- Each section that an operation may execute keeps the books. -/
theorem execute {request : PlanRequest} {c : Section} (hfollows : (progress n).Follows request)
    (hallowed : (progress n).Allows request c) :
    Books (executed ++ [⟨n, c, (s.execute sources c).1⟩]) (s.execute sources c).2
      (Function.update progress n ((progress n).advance c (s.execute sources c).1)) := by
  have hadvance := hfollows.advance hallowed (s.execute sources c).1
  cases c with
  | drawIdentifier | readClock =>
    simp only [Progress.advance_drawIdentifier, Progress.advance_readClock,
      Function.update_eq_self]
    exact h.idle _ ⟨n, _, _⟩ (fun _ => rfl) rfl rfl rfl
  | openSchedule id =>
    cases hn : progress n with
    | nothing =>
      -- Whoever claims an identifier that is taken is refused, and has come no further.
      by_cases hid : id ∈ s.schedules
      · simp only [State.execute, hid, if_true, Progress.advance]
        rw [← hn, Function.update_eq_self]
        exact h.idle s ⟨n, .openSchedule id, false⟩ (fun _ => rfl) rfl rfl rfl
      · simp only [State.execute, hid, if_false, Progress.advance]
        exact h.openSchedule hn hid
    | claimed | stored =>
      rw [hn] at hallowed
      exact hallowed.elim
  | addPlan plan =>
    cases hn : progress n with
    | claimed id =>
      rw [hn] at hallowed
      obtain ⟨rfl, -⟩ := hallowed
      exact h.addPlan hn
    | nothing | stored =>
      rw [hn] at hallowed
      exact hallowed.elim
  | addInstallment i =>
    cases hn : progress n with
    | stored plan is =>
      rw [hn] at hallowed hadvance
      have hi : i.planId = plan.id :=
        hadvance.2.planId i (List.mem_append_right is List.mem_cons_self)
      have hopen : i.planId ∈ s.schedules := by
        refine h.schedule n i.planId ?_
        rw [hn, hi]
        rfl
      simp only [State.execute, hopen, if_true, Progress.advance]
      exact h.addInstallment hn hi
    | nothing | claimed =>
      rw [hn] at hallowed
      exact hallowed.elim
  | plansOf | scheduleOf => cases hn : progress n <;> exact (hn ▸ hallowed).elim

end Books

end PaymentPlans.Memory
