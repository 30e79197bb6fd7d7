/-
# Operations

What callers ask of the service, and what it was like to serve them one after the other.
-/
import PaymentPlans.Service

namespace PaymentPlans

/-- What callers ask of the service. -/
inductive Operation where
  | create (request : PlanRequest)
  | list (userId : Identifier)
  | complete (planId : Identifier) (request : CompletionRequest)
deriving DecidableEq

namespace Operation

/-- What an operation gives, unless it fails. -/
abbrev Result : Operation → Type
  | create _ => PlanView
  | list _ => List PlanView
  | complete .. => PlanView

/-- What an operation ends with. -/
abbrev Outcome (o : Operation) : Type := Except ServiceError o.Result

/-- The program of an operation. -/
def program : (o : Operation) → RepositoryProgram o.Outcome
  | create request => Service.create request
  | list userId => Service.list userId
  | complete planId request => Service.complete planId request

end Operation

/-- An operation together with what it ended with. -/
structure Served where
  /-- What was asked. -/
  operation : Operation
  /-- What it ended with. -/
  outcome : operation.Outcome

/-- Serves operations one after the other.  What is given is the history, the oldest operation
first, and the state that is left. -/
def serveAll {σ : Type} (serve : {α : Type} → σ → RepositoryProgram α → Run Event σ α) :
    List Operation → σ → List Served × σ
  | [], s => ([], s)
  | o :: rest, s =>
    let run := serve s o.program
    let later := serveAll serve rest run.state
    (⟨o, run.value⟩ :: later.1, later.2)

theorem serveAll_operations {σ : Type}
    (serve : {α : Type} → σ → RepositoryProgram α → Run Event σ α) (operations : List Operation)
    (s : σ) : (serveAll serve operations s).1.map Served.operation = operations := by
  induction operations generalizing s with
  | nil => rfl
  | cons o operations ih => exact congrArg (o :: ·) (ih _)

end PaymentPlans
