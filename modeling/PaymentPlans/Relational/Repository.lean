/-
# A repository of database tables

Every call is a program of statements.  Amounts are read before anything is sent, and rows that
come back are decoded and turned into entities one by one, the first that cannot be ends it.
-/
import PaymentPlans.Relational.Row
import PaymentPlans.Repository.Basic
import PaymentPlans.Sql.Statement

namespace PaymentPlans.Relational

open Sql (send)
open Program (say)

/-- A failure of the query of an operation. -/
def failed (operation context : String) : RepositoryError := .queryFailed operation [context]

/-- Fetches a plan by its identifier. -/
def getPlan (planId : Identifier) : StatementProgram (Except RepositoryError Plan) := do
  match (← send (.getPlan planId)).atMostOne? PlanRow.decode? with
  | none => return .error (failed "get_payment_plan" "failed to fetch payment plan")
  | some none => return .error (.notFound "payment plan" planId)
  | some (some row) => return row.plan .record

/-- Fetches an installment by its identifier. -/
def getInstallment (installmentId : Identifier) :
    StatementProgram (Except RepositoryError Installment) := do
  match (← send (.getInstallment installmentId)).atMostOne? InstallmentRow.decode? with
  | none =>
    return .error (failed "get_payment_installment" "failed to fetch payment installment")
  | some none => return .error (.notFound "payment installment" installmentId)
  | some (some row) => return row.installment .record

/-- Stores a plan. -/
def createPlan (new : NewPlan) : StatementProgram (Except RepositoryError Plan) := do
  match readAmount new.amount with
  | .error e => return .error e
  | .ok amount =>
    let reply ← send (.insertPlan new.id new.userId new.currency amount new.status)
    match reply.one? PlanRow.decode? with
    | none => return .error (failed "insert_payment_plan" "failed to insert payment plan")
    | some row =>
      say (.planInserted row.id row.userId)
      return row.plan .created

/-- Lists the plans of a user.  Users only exist through their plans. -/
def listPlans (userId : Identifier) : StatementProgram (Except RepositoryError (List Plan)) := do
  match (← send (.listPlans userId)).all? PlanRow.decode? with
  | none =>
    return .error (failed "list_payment_plans_by_user_id"
      "failed to list payment plans by user id")
  | some [] => return .error (.notFound "payment plan" userId)
  | some rows => return rows.mapM (PlanRow.plan .listed)

/-- Lists the plans of a user whose identifier is still a text. -/
def listPlansByKey (key : String) : StatementProgram (Except RepositoryError (List Plan)) :=
  match readIdentifier key with
  | .error e => return .error e
  | .ok userId => listPlans userId

/-- Stores an installment. -/
def createInstallment (new : NewInstallment) :
    StatementProgram (Except RepositoryError Installment) := do
  match readAmount new.amount with
  | .error e => return .error e
  | .ok amount =>
    let reply ← send (.insertInstallment new.planId new.currency amount new.dueAt new.status)
    match reply.one? InstallmentRow.decode? with
    | none =>
      return .error (failed "insert_payment_installment"
        ("failed to insert installment for payment plan " ++ new.planId.text))
    | some row => return row.installment .created

/-- Lists the installments of a plan.  When there are none, the plan is looked up, to tell an
empty schedule from an unknown plan. -/
def listInstallments (planId : Identifier) :
    StatementProgram (Except RepositoryError (List Installment)) := do
  match (← send (.listInstallments planId)).all? InstallmentRow.decode? with
  | none =>
    return .error (failed "list_payment_installments_by_plan_id"
      "failed to list payment installments by plan id")
  | some [] =>
    match ← getPlan planId with
    | .error e => return .error e
    | .ok _ => return .ok []
  | some rows => return rows.mapM (InstallmentRow.installment .listed)

/-- The program of statements that answers a call. -/
def respond : (c : Repository.Call) → StatementProgram (Repository.Answer c)
  | .createPlan new => createPlan new
  | .listPlans userId => listPlans userId
  | .createInstallment new => createInstallment new
  | .listInstallments planId => listInstallments planId

end PaymentPlans.Relational
