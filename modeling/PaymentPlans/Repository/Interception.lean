/-
# Answers put in the place of others

To see how a program bears refusals, some of its calls can be answered without the repository:
every call of a kind, or one of them by its turn.  The program then goes as it does against another
repository, and so whatever holds of all repositories holds of it.
-/
import PaymentPlans.Repository.Basic

namespace PaymentPlans.Repository

/-- The kinds of calls. -/
inductive Method where
  | createPlan
  | listPlans
  | createInstallment
  | listInstallments
deriving DecidableEq, Repr

/-- The name of a kind of calls. -/
def Method.text : Method → String
  | createPlan => "create_payment_plan"
  | listPlans => "list_payment_plans_by_user_id"
  | createInstallment => "create_payment_installment"
  | listInstallments => "list_payment_installments_by_plan_id"

/-- The kind of a call. -/
def Call.method : Call → Method
  | createPlan _ => .createPlan
  | listPlans _ => .listPlans
  | createInstallment _ => .createInstallment
  | listInstallments _ => .listInstallments

/-- What is answered instead. -/
inductive Substitute where
  /-- A refusal. -/
  | refusal (error : RepositoryError)
  /-- An empty list, where a list is asked for. -/
  | emptyList
deriving DecidableEq

/-- The answer that is given to a call. -/
def Substitute.answer? : Substitute → (c : Call) → Option (Answer c)
  | refusal error, _ => some (.error error)
  | emptyList, .listPlans _ => some (.ok [])
  | emptyList, .listInstallments _ => some (.ok [])
  | emptyList, _ => none

/-- Which calls are answered by what. -/
structure Interception where
  /-- The kind of calls. -/
  method : Method
  /-- The turn of the one call, counted from zero among its kind; all calls if there is none. -/
  turn : Option Nat
  /-- What is answered instead. -/
  substitute : Substitute
deriving DecidableEq

/-- How many calls of each kind there have been. -/
abbrev Turns := Method → Nat

/-- One more call of a kind. -/
def Turns.next (turns : Turns) (m : Method) : Turns :=
  fun n => if n = m then turns n + 1 else turns n

/-- The answer to a call that the first fitting interception gives. -/
def intercepted? (interceptions : List Interception) (turns : Turns) (c : Call) :
    Option (Answer c) :=
  match interceptions.find? fun i =>
      i.method = c.method ∧ (i.turn = none ∨ i.turn = some (turns c.method)) with
  | some i => i.substitute.answer? c
  | none => none

/-- The program whose intercepted calls are answered already, and that ends with the turns too. -/
def intercept (interceptions : List Interception) :
    Turns → RepositoryProgram α → RepositoryProgram (α × Turns)
  | turns, .done a => .done (a, turns)
  | turns, .call c next =>
    let turns' := turns.next c.method
    match intercepted? interceptions turns c with
    | some answer => intercept interceptions turns' (next answer)
    | none => .call c fun answer => intercept interceptions turns' (next answer)
  | turns, .note event next => .note event (intercept interceptions turns next)

/-- The repository that gives these answers in the place of another one, and counts the turns. -/
def intercepting (interceptions : List Interception) (answer : (c : Call) → σ → Answer c × σ)
    (c : Call) (s : σ × Turns) : Answer c × σ × Turns :=
  let turns := s.2.next c.method
  match intercepted? interceptions s.2 c with
  | some reply => (reply, s.1, turns)
  | none => ((answer c s.1).1, (answer c s.1).2, turns)

/-- **A program whose calls are intercepted goes as it does against the repository that answers
them.** -/
theorem run_intercept (interceptions : List Interception) (answer : (c : Call) → σ → Answer c × σ)
    (p : RepositoryProgram α) (turns : Turns) (s : σ) :
    (intercept interceptions turns p).run answer s =
      let run := p.run (intercepting interceptions answer) (s, turns)
      ⟨(run.value, run.state.2), run.state.1, run.notes⟩ := by
  induction p generalizing turns s with
  | done a => rfl
  | call c next ih =>
    rw [intercept, Program.run, intercepting]
    cases intercepted? interceptions turns c with
    | some reply => exact ih _ _ _
    | none => exact ih _ _ _
  | note n next ih => rw [intercept, Program.run, ih, Program.run]

end PaymentPlans.Repository
