/-
# Contracts of programs

A contract says which calls a program may make, depending on how far it has come, and which
answers it may rely on.  A program that keeps to a contract can be followed call by call,
whatever happens between its calls: what holds of each allowed call holds of the whole run.
-/
import Mathlib.Tactic.Common
import PaymentPlans.Program

namespace PaymentPlans

/-- A contract for programs that make calls of type `Call`; how far a program has come is told by
a value of type `π`. -/
structure Contract (Call : Type) (Answer : Call → Type) (π : Type) where
  /-- The calls that may be made. -/
  Allows : π → Call → Prop
  /-- The answers that may be relied on. -/
  Promises : π → (c : Call) → Answer c → Prop
  /-- How far a program has come after a call. -/
  advance : π → (c : Call) → Answer c → π

variable {Call : Type} {Answer : Call → Type} {Note α β π σ : Type}

/-- A program that has come so far keeps to a contract from there on, and it ends with a value
that is accepted. -/
def Program.Keeps (contract : Contract Call Answer π) (Accepts : π → α → Prop) :
    π → Program Call Answer Note α → Prop
  | progress, .done a => Accepts progress a
  | progress, .call c next => contract.Allows progress c ∧
      ∀ a, contract.Promises progress c a →
        (next a).Keeps contract Accepts (contract.advance progress c a)
  | progress, .note _ next => next.Keeps contract Accepts progress

variable {contract : Contract Call Answer π}

lemma Program.Keeps.bind {Accepts : π → α → Prop} {Accepts' : π → β → Prop} {progress : π}
    {p : Program Call Answer Note α} {f : α → Program Call Answer Note β}
    (hp : p.Keeps contract Accepts progress)
    (hf : ∀ progress a, Accepts progress a → (f a).Keeps contract Accepts' progress) :
    (p.bind f).Keeps contract Accepts' progress := by
  induction p generalizing progress with
  | done a => exact hf progress a hp
  | call c next ih => exact ⟨hp.1, fun a hpromise => ih a (hp.2 a hpromise)⟩
  | note n next ih => exact ih hp

lemma Program.keeps_forM_say {Accepts : π → Unit → Prop} {progress : π}
    (h : Accepts progress ()) (notes : List Note) :
    (notes.forM Program.say : Program Call Answer Note Unit).Keeps contract Accepts progress := by
  induction notes with
  | nil => exact h
  | cons note notes ih => exact ih

/-- A run of a program that keeps to a contract ends with a value that is accepted, when the
answers are as promised; a relation between progress and state that each allowed call preserves
holds at the end. -/
theorem Program.Keeps.run {Accepts : π → α → Prop}
    {answer : (c : Call) → σ → Answer c × σ} {Fits : π → σ → Prop}
    (step : ∀ progress c s, contract.Allows progress c → Fits progress s →
      contract.Promises progress c (answer c s).1 ∧
        Fits (contract.advance progress c (answer c s).1) (answer c s).2)
    {progress : π} {p : Program Call Answer Note α} (h : p.Keeps contract Accepts progress) {s : σ}
    (hs : Fits progress s) :
    ∃ final, Accepts final (p.run answer s).value ∧ Fits final (p.run answer s).state := by
  induction p generalizing progress s with
  | done a => exact ⟨progress, h, hs⟩
  | call c next ih =>
    obtain ⟨hallowed, hnext⟩ := h
    obtain ⟨hpromised, hfits⟩ := step progress c s hallowed hs
    exact ih _ (hnext _ hpromised) hfits
  | note n next ih => exact ih h hs

end PaymentPlans
