/-
# Statements

All statements that are ever sent, each with its text, its parameters and the columns of its
rows.  No statement but the one that creates a database holds anything that varies.
-/
import PaymentPlans.Instant.Kept
import PaymentPlans.Program
import PaymentPlans.Repository.Event
import PaymentPlans.Sql.Value

namespace PaymentPlans.Sql

/-- The statements. -/
inductive Statement where
  /-- Inserts a plan; the database chooses an identifier if none is given. -/
  | insertPlan (id : Option Identifier) (userId : Identifier) (currency : String)
      (amount : Amount) (status : PlanStatus)
  /-- Lists the plans of a user, the newest first. -/
  | listPlans (userId : Identifier)
  | getPlan (planId : Identifier)
  /-- Inserts an installment of a plan. -/
  | insertInstallment (planId : Identifier) (currency : String) (amount : Amount)
      (dueAt : Instant) (status : InstallmentStatus)
  /-- Lists the installments of a plan, the earliest due first. -/
  | listInstallments (planId : Identifier)
  | getInstallment (installmentId : Identifier)
  /-- Asks whether there is a history of schemas. -/
  | hasHistory
  /-- Fetches the newest schema of the history. -/
  | latestVersion
  | countRows
  /-- Asks whether there is a database of a name. -/
  | hasDatabase (name : String)
  | createDatabase (name : String)
deriving DecidableEq

namespace Statement

/-- The text of a statement. -/
def sql : Statement → String
  | insertPlan .. =>
    "INSERT INTO payment_plans (id, user_id, currency, amount, status) " ++
      "VALUES (COALESCE($1, gen_random_uuid()), $2, $3, $4, $5) " ++
      "RETURNING id, user_id, currency, amount, status, created_at, updated_at"
  | listPlans _ =>
    "SELECT id, user_id, currency, amount, status, created_at, updated_at " ++
      "FROM payment_plans WHERE user_id = $1 ORDER BY created_at DESC"
  | getPlan _ => "SELECT * FROM payment_plans WHERE id = $1"
  | insertInstallment .. =>
    "INSERT INTO payment_installments (payment_plan_id, currency, amount, due_at, status) " ++
      "VALUES ($1, $2, $3, $4, $5) " ++
      "RETURNING id, payment_plan_id, currency, amount, due_at, status, created_at, updated_at"
  | listInstallments _ =>
    "SELECT id, payment_plan_id, currency, amount, due_at, status, created_at, updated_at " ++
      "FROM payment_installments WHERE payment_plan_id = $1 ORDER BY due_at ASC, created_at ASC"
  | getInstallment _ => "SELECT * FROM payment_installments WHERE id = $1"
  | hasHistory => "SELECT to_regclass('_sqlx_migrations') IS NOT NULL"
  | latestVersion =>
    "SELECT version, description FROM _sqlx_migrations " ++
      "WHERE success ORDER BY version DESC LIMIT 1"
  | countRows =>
    "SELECT (SELECT COUNT(*) FROM payment_plans), (SELECT COUNT(*) FROM payment_installments)"
  | hasDatabase _ => "SELECT EXISTS(SELECT 1 FROM pg_database WHERE datname = $1)"
  | createDatabase name => "CREATE DATABASE " ++ name

/-- The parameters of a statement. -/
def parameters : Statement → List Value
  | insertPlan id userId currency amount status =>
    [id.elim .null .identifier, .identifier userId, .text currency, .amount amount,
      .text status.text]
  | listPlans userId => [.identifier userId]
  | getPlan planId => [.identifier planId]
  | insertInstallment planId currency amount dueAt status =>
    [.identifier planId, .text currency, .amount amount, .instant dueAt.kept, .text status.text]
  | listInstallments planId => [.identifier planId]
  | getInstallment installmentId => [.identifier installmentId]
  | hasHistory | latestVersion | countRows | createDatabase _ => []
  | hasDatabase name => [.text name]

end Statement

/-- What is kept in a column. -/
inductive ColumnType where
  | identifier
  | text
  | amount
  | instant
  | bool
  | integer
deriving DecidableEq, Repr

/-- The columns of the rows of plans. -/
def planColumns : List (String × ColumnType) :=
  [("id", .identifier), ("user_id", .identifier), ("currency", .text), ("amount", .amount),
    ("status", .text), ("created_at", .instant), ("updated_at", .instant)]

/-- The columns of the rows of installments. -/
def installmentColumns : List (String × ColumnType) :=
  [("id", .identifier), ("payment_plan_id", .identifier), ("currency", .text),
    ("amount", .amount), ("due_at", .instant), ("status", .text), ("created_at", .instant),
    ("updated_at", .instant)]

/-- The columns of the rows of a statement, by name and kind. -/
def Statement.columns : Statement → List (String × ColumnType)
  | insertPlan .. | listPlans _ | getPlan _ => planColumns
  | insertInstallment .. | listInstallments _ | getInstallment _ => installmentColumns
  | hasHistory => [("has_table", .bool)]
  | latestVersion => [("version", .integer), ("description", .text)]
  | countRows => [("payment_plans", .integer), ("payment_installments", .integer)]
  | hasDatabase _ => [("exists", .bool)]
  | createDatabase _ => []

/-- What a statement is answered by. -/
abbrev Statement.Answer (_ : Statement) : Type := Reply

end Sql

/-- Programs of statements, with a log. -/
abbrev StatementProgram := Program Sql.Statement Sql.Statement.Answer Event

namespace Sql

/-- Sends a statement. -/
def send (s : Statement) : StatementProgram Reply := .ask s

/-- The value of the one row that is wanted: rows after the first do not count, and no row at
all is as bad as one that cannot be decoded. -/
def Reply.one? (decode : Row → Option α) : Reply → Option α
  | .ok (row :: _) => decode row
  | _ => none

/-- The value of the row that there may be: rows after the first do not count. -/
def Reply.atMostOne? (decode : Row → Option α) : Reply → Option (Option α)
  | .ok (row :: _) => (decode row).map some
  | .ok [] => some none
  | .error _ => none

/-- The values of all rows; one that cannot be decoded is as bad as a failure. -/
def Reply.all? (decode : Row → Option α) : Reply → Option (List α)
  | .ok rows => rows.mapM decode
  | .error _ => none

end Sql

end PaymentPlans
