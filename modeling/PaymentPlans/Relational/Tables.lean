/-
# The two tables

What the statements do to the tables of plans and of installments.  An insertion stores what is
bound to it, unless the identifier is taken or there is no plan to belong to; identifiers that
are not bound and the time of the insertion are filled in.  A selection filters and orders as it
is written.  The schema lets only states in that are known, so that a row is an entity.
-/
import PaymentPlans.Relational.Repository

namespace PaymentPlans.Relational

/-- What the columns are filled with that no statement binds: fresh identifiers, one after the
other, and the time of each insertion. -/
structure Defaults where
  /-- The `n`-th identifier that is drawn. -/
  identifier : Nat → Identifier
  /-- The time of the `n`-th insertion. -/
  time : Nat → Instant

/-- The rows of the tables. -/
structure Tables where
  /-- The plans, the oldest first. -/
  plans : List Plan := []
  /-- The installments, the oldest first. -/
  installments : List Installment := []
  /-- How many identifiers were drawn. -/
  drawn : Nat := 0
  /-- How many rows were to be inserted. -/
  ticks : Nat := 0
deriving DecidableEq

/-- The columns of a row of the table of plans. -/
def cellsOfPlan (plan : Plan) : Sql.Row :=
  [.identifier plan.id, .identifier plan.userId, .text plan.currency, .amount plan.amount,
    .text plan.status.text, .instant plan.createdAt, .instant plan.updatedAt]

/-- The columns of a row of the table of installments. -/
def cellsOfInstallment (i : Installment) : Sql.Row :=
  [.identifier i.id, .identifier i.planId, .text i.currency, .amount i.amount, .instant i.dueAt,
    .text i.status.text, .instant i.createdAt, .instant i.updatedAt]

/-- Whether a row comes before another one, or with it, when the newest are listed first. -/
def notOlder (a b : Plan) : Bool := b.createdAt.notAfter a.createdAt

/-- Whether a row comes before another one, or with it, when the earliest due are listed first and
those that are due at the same instant from the oldest on. -/
def notDueAfter (a b : Installment) : Bool :=
  a.dueAt.notAfter b.dueAt && (!b.dueAt.notAfter a.dueAt || a.createdAt.notAfter b.createdAt)

namespace Tables

/-- The rows of a user, the newest first. -/
def plansOf (t : Tables) (userId : Identifier) : List Plan :=
  (t.plans.filter fun plan => plan.userId = userId).mergeSort notOlder

/-- The rows of a plan, the earliest due first. -/
def installmentsOf (t : Tables) (planId : Identifier) : List Installment :=
  (t.installments.filter fun i => i.planId = planId).mergeSort notDueAfter

/-- Inserts a plan. -/
def insertPlan (defaults : Defaults) (t : Tables) (id : Option Identifier)
    (userId : Identifier) (currency : String) (amount : Amount) (status : PlanStatus) :
    Sql.Reply × Tables :=
  let now := defaults.time t.ticks
  let row : Plan :=
    { id := id.getD (defaults.identifier t.drawn), userId, currency, amount, status,
      createdAt := now, updatedAt := now }
  let drawn := if id.isSome then t.drawn else t.drawn + 1
  if row.id ∈ t.plans.map Plan.id then
    (.error ⟨"duplicate key value violates unique constraint"⟩,
      { t with drawn, ticks := t.ticks + 1 })
  else
    (.ok [cellsOfPlan row],
      { t with plans := t.plans ++ [row], drawn, ticks := t.ticks + 1 })

/-- Inserts an installment. -/
def insertInstallment (defaults : Defaults) (t : Tables) (planId : Identifier)
    (currency : String) (amount : Amount) (dueAt : Instant) (status : InstallmentStatus) :
    Sql.Reply × Tables :=
  let now := defaults.time t.ticks
  let row : Installment :=
    { id := defaults.identifier t.drawn, planId, currency, amount, dueAt := dueAt.kept, status,
      createdAt := now, updatedAt := now }
  let rest := { t with drawn := t.drawn + 1, ticks := t.ticks + 1 }
  if row.id ∈ t.installments.map Installment.id then
    (.error ⟨"duplicate key value violates unique constraint"⟩, rest)
  else if planId ∈ t.plans.map Plan.id then
    (.ok [cellsOfInstallment row], { rest with installments := t.installments ++ [row] })
  else (.error ⟨"insert violates foreign key constraint"⟩, rest)

/-- Executes a statement.  Those that are about no plan and no installment fail. -/
def execute (defaults : Defaults) (t : Tables) : (s : Sql.Statement) → s.Answer × Tables
  | .insertPlan id userId currency amount status =>
    t.insertPlan defaults id userId currency amount status
  | .listPlans userId => (.ok ((t.plansOf userId).map cellsOfPlan), t)
  | .getPlan planId =>
    (.ok ((t.plans.filter fun plan => plan.id = planId).map cellsOfPlan), t)
  | .insertInstallment planId currency amount dueAt status =>
    t.insertInstallment defaults planId currency amount dueAt status
  | .listInstallments planId => (.ok ((t.installmentsOf planId).map cellsOfInstallment), t)
  | .getInstallment installmentId =>
    (.ok ((t.installments.filter fun i => i.id = installmentId).map cellsOfInstallment), t)
  | .countRows =>
    (.ok [[.integer t.plans.length, .integer t.installments.length]], t)
  | _ => (.error ⟨"not a statement about payment plans"⟩, t)

section

variable (defaults : Defaults) (t : Tables)

@[simp] theorem execute_insertPlan (id : Option Identifier) (userId : Identifier)
    (currency : String) (amount : Amount) (status : PlanStatus) :
    t.execute defaults (.insertPlan id userId currency amount status) =
      t.insertPlan defaults id userId currency amount status := rfl

@[simp] theorem execute_listPlans (userId : Identifier) :
    t.execute defaults (.listPlans userId) = (.ok ((t.plansOf userId).map cellsOfPlan), t) := rfl

@[simp] theorem execute_getPlan (planId : Identifier) :
    t.execute defaults (.getPlan planId) =
      (.ok ((t.plans.filter fun plan => plan.id = planId).map cellsOfPlan), t) := rfl

@[simp] theorem execute_insertInstallment (planId : Identifier) (currency : String)
    (amount : Amount) (dueAt : Instant) (status : InstallmentStatus) :
    t.execute defaults (.insertInstallment planId currency amount dueAt status) =
      t.insertInstallment defaults planId currency amount dueAt status := rfl

@[simp] theorem execute_listInstallments (planId : Identifier) :
    t.execute defaults (.listInstallments planId) =
      (.ok ((t.installmentsOf planId).map cellsOfInstallment), t) := rfl

end

/-- Runs a program of statements. -/
def run (defaults : Defaults) (t : Tables) (p : StatementProgram α) : Run Event Tables α :=
  p.run (fun s t => t.execute defaults s) t

/-- Runs a program of calls. -/
def serve (defaults : Defaults) (t : Tables) (p : RepositoryProgram α) : Run Event Tables α :=
  t.run defaults (p.refine respond)

end Tables

end PaymentPlans.Relational
