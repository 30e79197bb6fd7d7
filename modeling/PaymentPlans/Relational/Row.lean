/-
# Rows of plans and installments

A row is decoded into its columns; its state is still a text then, for the tables may hold states
that this library does not know.  A row becomes an entity if its state is known.
-/
import PaymentPlans.Repository.Error
import PaymentPlans.Sql.Value

namespace PaymentPlans.Relational

/-- A row of the table of plans. -/
structure PlanRow where
  id : Identifier
  userId : Identifier
  currency : String
  amount : Amount
  status : String
  createdAt : Instant
  updatedAt : Instant
deriving DecidableEq

/-- A row of the table of installments. -/
structure InstallmentRow where
  id : Identifier
  planId : Identifier
  currency : String
  amount : Amount
  dueAt : Instant
  status : String
  createdAt : Instant
  updatedAt : Instant
deriving DecidableEq

/-- Decodes a row of the table of plans. -/
def PlanRow.decode? : Sql.Row → Option PlanRow
  | [id, userId, currency, amount, status, createdAt, updatedAt] => do
    return { id := ← id.identifier?, userId := ← userId.identifier?,
             currency := ← currency.text?, amount := ← amount.amount?, status := ← status.text?,
             createdAt := ← createdAt.instant?, updatedAt := ← updatedAt.instant? }
  | _ => none

/-- Decodes a row of the table of installments. -/
def InstallmentRow.decode? : Sql.Row → Option InstallmentRow
  | [id, planId, currency, amount, dueAt, status, createdAt, updatedAt] => do
    return { id := ← id.identifier?, planId := ← planId.identifier?,
             currency := ← currency.text?, amount := ← amount.amount?, dueAt := ← dueAt.instant?,
             status := ← status.text?, createdAt := ← createdAt.instant?,
             updatedAt := ← updatedAt.instant? }
  | _ => none

/-- Where a row comes from. -/
inductive Shape where
  /-- The row that was just inserted. -/
  | created
  /-- One of a list. -/
  | listed
  /-- The one that was asked for. -/
  | record
deriving DecidableEq, Repr

/-- What a row of plans is called by where it comes from. -/
def Shape.planText : Shape → String
  | created => "created payment plan"
  | listed => "listed payment plan"
  | record => "payment plan record"

/-- What a row of installments is called by where it comes from. -/
def Shape.installmentText : Shape → String
  | created => "created payment installment"
  | listed => "listed payment installment"
  | record => "payment installment record"

/-- The plan in a row. -/
def PlanRow.plan (shape : Shape) (row : PlanRow) : Except RepositoryError Plan :=
  match PlanStatus.ofText? row.status with
  | some status =>
    .ok { id := row.id, userId := row.userId, currency := row.currency, amount := row.amount,
          status, createdAt := row.createdAt, updatedAt := row.updatedAt }
  | none => .error (.unsupportedRow shape.planText (PlanStatus.unknownMessage row.status))

/-- The installment in a row. -/
def InstallmentRow.installment (shape : Shape) (row : InstallmentRow) :
    Except RepositoryError Installment :=
  match InstallmentStatus.ofText? row.status with
  | some status =>
    .ok { id := row.id, planId := row.planId, currency := row.currency, amount := row.amount,
          dueAt := row.dueAt, status, createdAt := row.createdAt, updatedAt := row.updatedAt }
  | none =>
    .error (.unsupportedRow shape.installmentText (InstallmentStatus.unknownMessage row.status))

end PaymentPlans.Relational
