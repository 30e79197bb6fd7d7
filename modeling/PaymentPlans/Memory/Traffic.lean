/-
# Many clients on one store

Clients run operations on one store at the same time.  Each operation is under way as what is
left of its program of sections; one section at a time is executed, of whichever operation, and
what was executed is written down.
-/
import PaymentPlans.Memory.Basic
import PaymentPlans.Service.Operation

namespace PaymentPlans.Memory

/-- An operation that is under way, with what is left of it. -/
structure Pending where
  /-- What was asked. -/
  operation : Operation
  /-- What is left to do. -/
  rest : SectionProgram operation.Outcome

/-- What an operation ended with, if it has ended. -/
def Pending.outcome? (p : Pending) : Option p.operation.Outcome :=
  match p.rest with
  | .done outcome => some outcome
  | _ => none

/-- A section that was executed. -/
structure Executed where
  /-- The number of the operation that it belongs to. -/
  operation : Nat
  did : Section
  /-- How it was answered. -/
  answer : did.Answer

/-- Whether a section claimed an identifier for a plan. -/
def Executed.claims (id : Identifier) : Executed → Bool
  | ⟨_, .openSchedule other, true⟩ => other = id
  | _ => false

/-- The numbers of the operations that claimed an identifier, as often as they did. -/
def claimants (id : Identifier) (executed : List Executed) : List Nat :=
  (executed.filter (Executed.claims id)).map Executed.operation

/-- A store and the operations that clients run on it. -/
structure Traffic where
  state : State := {}
  /-- The operations, numbered in the order in which they started. -/
  pending : List Pending := []
  /-- The sections that were executed, the oldest first. -/
  executed : List Executed := []

/-- What can happen next. -/
inductive Move where
  | start (o : Operation)
  /-- The operation of a number goes on by one step. -/
  | go (n : Nat)

namespace Traffic

/-- Lets the next thing happen.  An operation that has ended stays as it is. -/
def move (sources : Sources) (t : Traffic) : Move → Traffic
  | .start o => { t with pending := t.pending ++ [⟨o, o.program.refine respond⟩] }
  | .go n =>
    match t.pending[n]? with
    | none | some ⟨_, .done _⟩ => t
    | some ⟨o, .note _ next⟩ => { t with pending := t.pending.set n ⟨o, next⟩ }
    | some ⟨o, .call c next⟩ =>
      let (answer, state) := t.state.execute sources c
      { state, pending := t.pending.set n ⟨o, next answer⟩,
        executed := t.executed ++ [⟨n, c, answer⟩] }

/-- What is reached from an empty store by letting things happen in some order. -/
def after (sources : Sources) (moves : List Move) : Traffic := moves.foldl (move sources) {}

/-- The operation of a number. -/
def operation? (t : Traffic) (n : Nat) : Option Operation := t.pending[n]?.map Pending.operation

end Traffic

end PaymentPlans.Memory
