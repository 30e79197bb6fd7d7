/-
# Steps that may fail

A step that follows another one gives something if both do.  The items of a list are taken one after
the other: all of them give something, or the first that gives nothing ends it.
-/
import Mathlib.Data.List.Forall2

namespace PaymentPlans

variable {α β δ ε : Type}

/-- What succeeds has succeeded in both of its steps. -/
lemma bind_eq_ok {x : Except ε α} {f : α → Except ε β} {b : β} :
    x >>= f = .ok b ↔ ∃ a, x = .ok a ∧ f a = .ok b := by
  cases x <;> simp [bind, Except.bind]

lemma map_eq_ok {x : Except ε α} {f : α → β} {b : β} :
    x.map f = .ok b ↔ ∃ a, x = .ok a ∧ f a = b := by
  cases x <;> simp [Except.map]

/-- Another name for what goes wrong leaves alone what goes well. -/
lemma mapError_eq_ok {f : ε → δ} {x : Except ε α} {a : α} :
    x.mapError f = .ok a ↔ x = .ok a := by
  cases x <;> simp [Except.mapError]

/-! ## One item after the other -/

section

variable {f : α → Except ε β} {as : List α}

/-- A list is taken for another one exactly if each item is taken for the one in its place. -/
lemma mapM_eq_ok_iff_forall₂ {bs : List β} :
    as.mapM f = .ok bs ↔ List.Forall₂ (fun a b => f a = .ok b) as bs := by
  induction as generalizing bs with
  | nil =>
    rw [List.mapM_nil, List.forall₂_nil_left_iff]
    exact (Except.ok.injEq ..).to_iff.trans eq_comm
  | cons a as ih =>
    simp only [List.mapM_cons, bind_eq_ok, ih, List.forall₂_cons_left_iff]
    constructor
    · rintro ⟨b, hb, others, hothers, h⟩
      exact ⟨b, others, hb, hothers, (Except.ok.inj h).symm⟩
    · rintro ⟨b, others, hb, hothers, rfl⟩
      exact ⟨b, hb, others, hothers, rfl⟩

/-- All items are taken for something exactly if each of them is. -/
lemma isOk_mapM_iff : (∃ bs, as.mapM f = .ok bs) ↔ ∀ a ∈ as, ∃ b, f a = .ok b := by
  simp only [mapM_eq_ok_iff_forall₂]
  induction as with
  | nil => exact iff_of_true ⟨[], .nil⟩ (List.forall_mem_nil _)
  | cons a as ih =>
    rw [List.forall_mem_cons, ← ih]
    constructor
    · rintro ⟨_, hall⟩
      obtain ⟨b, bs, hb, hbs, rfl⟩ := List.forall₂_cons_left_iff.1 hall
      exact ⟨⟨b, hb⟩, bs, hbs⟩
    · rintro ⟨⟨b, hb⟩, bs, hbs⟩
      exact ⟨b :: bs, .cons hb hbs⟩

/-- The first item that is not taken for anything ends it, whatever stands behind it. -/
lemma mapM_eq_error {before behind : List α} {a : α} {fault : ε}
    (hbefore : ∀ b ∈ before, ∃ c, f b = .ok c) (ha : f a = .error fault) :
    (before ++ a :: behind).mapM f = .error fault := by
  obtain ⟨bs, hbs⟩ := isOk_mapM_iff.2 hbefore
  rw [List.mapM_append, hbs, List.mapM_cons, ha]
  rfl

/-- What each item was made of is found again. -/
lemma mapM_map_eq_ok {g : β → α} (h : ∀ b, f (g b) = .ok b) (bs : List β) :
    (bs.map g).mapM f = .ok bs := by
  rw [mapM_eq_ok_iff_forall₂, List.forall₂_map_left_iff, List.forall₂_same]
  exact fun b _ => h b

end

/-- The same without a reason for what is not taken. -/
lemma mapM_eq_some_iff_forall₂ {f : α → Option β} {as : List α} {bs : List β} :
    as.mapM f = some bs ↔ List.Forall₂ (fun a b => f a = some b) as bs := by
  induction as generalizing bs with
  | nil =>
    rw [List.mapM_nil, List.forall₂_nil_left_iff]
    exact (Option.some.injEq ..).to_iff.trans eq_comm
  | cons a as ih =>
    simp only [List.mapM_cons, Option.bind_eq_bind, Option.bind_eq_some_iff, ih,
      List.forall₂_cons_left_iff]
    constructor
    · rintro ⟨b, hb, others, hothers, h⟩
      exact ⟨b, others, hb, hothers, (Option.some.inj h).symm⟩
    · rintro ⟨b, others, hb, hothers, rfl⟩
      exact ⟨b, hb, others, hothers, rfl⟩

/-- Items that are related to others by way of a function are related to what it is applied to. -/
lemma exists_map_eq_of_forall₂ {R : α → δ → Prop} {g : δ → β} {as : List α} {bs : List β}
    (h : List.Forall₂ (fun a b => ∃ d, R a d ∧ g d = b) as bs) :
    ∃ ds, List.Forall₂ R as ds ∧ ds.map g = bs := by
  induction h with
  | nil => exact ⟨[], .nil, rfl⟩
  | cons hb _ ih =>
    obtain ⟨d, hd, rfl⟩ := hb
    obtain ⟨ds, hds, rfl⟩ := ih
    exact ⟨d :: ds, .cons hd hds, rfl⟩

/-- What each of some steps keeps, all of them keep. -/
lemma foldlM_keeps {step : β → α → Option β} {P : β → Prop} {as : List α}
    (hstep : ∀ b a b', a ∈ as → P b → step b a = some b' → P b') {b b' : β} (hb : P b)
    (h : as.foldlM step b = some b') : P b' := by
  induction as generalizing b with
  | nil => exact Option.some.inj h ▸ hb
  | cons a as ih =>
    rw [List.foldlM_cons] at h
    obtain ⟨next, hnext, hrest⟩ := Option.bind_eq_some_iff.1 h
    exact ih (fun b a b' ha => hstep b a b' (List.mem_cons_of_mem _ ha))
      (hstep b a next List.mem_cons_self hb hnext) hrest

end PaymentPlans
