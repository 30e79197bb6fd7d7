/-
# The order of rows

As long as every row is newer than the rows before it, the newest first is the reverse of the
order of insertion, and the earliest due first is the order of insertion exactly when no row was
inserted before one that is due earlier.
-/
import Mathlib.Data.List.Sort
import PaymentPlans.Proofs.Instant.Kept
import PaymentPlans.Relational.Tables

namespace PaymentPlans.Relational

/-- Instants are times of insertions, one after the other. -/
structure Dated (time : Nat → Instant) (ticks : Nat) (instants : List Instant) : Prop where
  /-- They were read off the clock. -/
  read : ∀ i ∈ instants, ∃ n < ticks, i = time n
  /-- Each is later than those before it. -/
  rising : instants.Pairwise fun a b => a.rank < b.rank

lemma Dated.nil (time : Nat → Instant) (ticks : Nat) : Dated time ticks [] :=
  ⟨by simp, .nil⟩

lemma Dated.succ {time : Nat → Instant} {ticks : Nat} {instants : List Instant}
    (h : Dated time ticks instants) : Dated time (ticks + 1) instants := by
  refine ⟨fun i hi => ?_, h.rising⟩
  obtain ⟨n, hn, rfl⟩ := h.read i hi
  exact ⟨n, by omega, rfl⟩

lemma Dated.concat {time : Nat → Instant} {ticks : Nat} {instants : List Instant}
    (h : Dated time ticks instants) (hnow : ∀ n < ticks, (time n).rank < (time ticks).rank) :
    Dated time (ticks + 1) (instants ++ [time ticks]) := by
  constructor
  · intro i hi
    rcases List.mem_append.1 hi with hi | hi
    · exact h.succ.read i hi
    · exact ⟨ticks, by omega, List.mem_singleton.1 hi⟩
  · refine List.pairwise_append.2 ⟨h.rising, List.pairwise_singleton _ _, fun a ha b hb => ?_⟩
    obtain ⟨n, hn, rfl⟩ := h.read a ha
    rw [List.mem_singleton.1 hb]
    exact hnow n hn

/-! ## Plans -/

lemma notOlder_trans (a b c : Plan) (h : notOlder a b) (k : notOlder b c) : notOlder a c :=
  Instant.notAfter_trans k h

lemma notOlder_total (a b : Plan) : (notOlder a b || notOlder b a) = true :=
  Instant.notAfter_total _ _

/-- Rows that are each newer than those before, sorted from the newest on, are reversed. -/
lemma mergeSort_notOlder {plans : List Plan}
    (h : plans.Pairwise fun a b => a.createdAt.rank < b.createdAt.rank) :
    plans.mergeSort notOlder = plans.reverse := by
  have hnodup : (plans.map fun plan => plan.createdAt.rank).Nodup :=
    List.pairwise_map.2 (h.imp fun hlt => ne_of_lt hlt)
  have hperm : (plans.mergeSort notOlder).Perm plans.reverse :=
    (List.mergeSort_perm _ _).trans (List.reverse_perm plans).symm
  refine hperm.eq_of_pairwise ?_ (List.pairwise_mergeSort notOlder_trans notOlder_total plans) ?_
  · intro a b ha hb hab hba
    have hrank : a.createdAt.rank = b.createdAt.rank :=
      le_antisymm (Instant.notAfter_iff.1 hba) (Instant.notAfter_iff.1 hab)
    exact List.inj_on_of_nodup_map hnodup (List.mem_mergeSort.1 ha) (List.mem_reverse.1 hb) hrank
  · rw [List.pairwise_reverse]
    exact h.imp fun hlt => Instant.notAfter_iff.2 (le_of_lt hlt)

/-! ## Installments -/

lemma notDueAfter_iff (a b : Installment) : notDueAfter a b ↔
    a.dueAt.rank < b.dueAt.rank ∨
      (a.dueAt.rank = b.dueAt.rank ∧ a.createdAt.rank ≤ b.createdAt.rank) := by
  simp only [notDueAfter, Bool.and_eq_true, Bool.or_eq_true, Bool.not_eq_true',
    ← Bool.not_eq_true, Instant.notAfter_iff]
  omega

lemma notDueAfter_trans (a b c : Installment) (h : notDueAfter a b) (k : notDueAfter b c) :
    notDueAfter a c := by
  rw [notDueAfter_iff] at *
  omega

lemma notDueAfter_total (a b : Installment) : (notDueAfter a b || notDueAfter b a) = true := by
  rw [Bool.or_eq_true, notDueAfter_iff, notDueAfter_iff]
  omega

/-- Sorted rows are due one after the other. -/
lemma mergeSort_notDueAfter_ascending (installments : List Installment) :
    (installments.mergeSort notDueAfter).Pairwise fun a b => a.dueAt.notAfter b.dueAt := by
  refine (List.pairwise_mergeSort notDueAfter_trans notDueAfter_total installments).imp ?_
  intro a b h
  rw [notDueAfter_iff] at h
  rw [Instant.notAfter_iff]
  omega

/-- Rows that are each newer than those before stay as they are if they are due one after the
other: those that are due at the same instant are told apart by their age. -/
lemma mergeSort_notDueAfter {installments : List Installment}
    (hage : installments.Pairwise fun a b => a.createdAt.rank < b.createdAt.rank)
    (hdue : installments.Pairwise fun a b => a.dueAt.notAfter b.dueAt) :
    installments.mergeSort notDueAfter = installments := by
  refine List.mergeSort_of_pairwise ((hage.and hdue).imp ?_)
  rintro a b ⟨hlt, hle⟩
  rw [Instant.notAfter_iff] at hle
  rw [notDueAfter_iff]
  omega

end PaymentPlans.Relational
