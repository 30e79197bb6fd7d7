/-
# Events

What the service and the repositories report on the way, for a log: a level, a message and named
fields.
-/
import PaymentPlans.Identifier.Basic
import PaymentPlans.Repository.Error

namespace PaymentPlans

/-- How much an event matters. -/
inductive Level where
  | debug
  | info
  | warn
deriving DecidableEq, Repr

/-- The name of a level. -/
def Level.text : Level → String
  | debug => "DEBUG"
  | info => "INFO"
  | warn => "WARN"

/-- What is reported on the way. -/
inductive Event where
  | loadingPlans (userId : Identifier)
  /-- An installment could not be stored, and those before it stay. -/
  | installmentRefused (planId : Identifier) (persisted requested : Nat) (error : RepositoryError)
  /-- A plan was stored with all its installments. -/
  | planCreated (planId userId : Identifier) (installments : Nat)
  /-- The installment to be shown as paid is paid already. -/
  | alreadyPaid (planId installmentId : Identifier)
  /-- An installment is shown as paid. -/
  | shownPaid (planId installmentId : Identifier)
  /-- A plan has no installment that could be paid. -/
  | nothingToPay (planId : Identifier)
  | planRemembered (planId userId : Identifier)
  | planInserted (planId userId : Identifier)
  /-- The schema of a database is the one that is expected. -/
  | schemaReady (version : Int) (description : String)
  | databaseExists (database : String)
  | databaseCreated (database : String)
deriving DecidableEq

namespace Event

/-- How much an event matters. -/
def level : Event → Level
  | loadingPlans .. | alreadyPaid .. | planRemembered .. | planInserted .. | databaseExists .. =>
    .debug
  | planCreated .. | shownPaid .. | schemaReady .. | databaseCreated .. => .info
  | installmentRefused .. | nothingToPay .. => .warn

/-- The wording of an event. -/
def message : Event → String
  | loadingPlans .. => "loading payment plans"
  | installmentRefused .. => "installment insert failed, plan left partially created"
  | planCreated .. => "created pending payment plan"
  | alreadyPaid .. => "installment already paid"
  | shownPaid .. => "marked installment paid"
  | nothingToPay .. => "payment plan has no installments to pay"
  | planRemembered .. => "stored payment plan in memory"
  | planInserted .. => "inserted payment plan row"
  | schemaReady .. => "payment plan schema ready"
  | databaseExists .. => "database already exists"
  | databaseCreated .. => "database created"

/-- The named fields of an event. -/
def fields : Event → List (String × String)
  | loadingPlans userId => [("user_id", userId.text)]
  | installmentRefused planId persisted requested error =>
    [("plan_id", planId.text), ("persisted", toString persisted),
      ("requested", toString requested), ("error", error.message)]
  | planCreated planId userId installments =>
    [("plan_id", planId.text), ("user_id", userId.text), ("installments", toString installments)]
  | alreadyPaid planId installmentId | shownPaid planId installmentId =>
    [("plan_id", planId.text), ("installment_id", installmentId.text)]
  | nothingToPay planId => [("plan_id", planId.text)]
  | planRemembered planId userId | planInserted planId userId =>
    [("plan_id", planId.text), ("user_id", userId.text)]
  | schemaReady version description =>
    [("version", toString version), ("description", description)]
  | databaseExists database | databaseCreated database => [("db", database)]

end Event

end PaymentPlans
