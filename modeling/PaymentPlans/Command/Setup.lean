/-
# Commands that set things up

Writing the first settings, and setting up the database.  The database is set up step by step;
after a step that fails nothing more is done, and only when all have succeeded is it said to be
ready.
-/
import PaymentPlans.Command.Error
import PaymentPlans.Database.Bootstrap

namespace PaymentPlans.Command

open Machine (has ofDatabase print)

/-- Writes settings with an address, over those that are there only if forced. -/
def writeSettings (url : String) (force : Bool) : MachineProgram (Except CommandError Unit) := do
  let (_, path) ← Settings.locate
  if (← has path) && !force then return .error (.settingsPresent path)
  match ← Settings.save { url } with
  | .error e => return .error (.settings e)
  | .ok () =>
    print ("Config written to " ++ path)
    print ("  database.url = " ++ url)
    print ""
    print "Next: run `paylater db-init` to create the database and apply the schema."
    return .ok ()

/-- Brings a database up to date: makes sure that it exists, connects to it, applies the schema
and counts the rows. -/
def prepare (config : Database.Config) :
    DatabaseProgram (Except Database.Error (Database.SchemaVersion × Database.RowCounts)) := do
  match ← Database.ensureExists config with
  | .error e => return .error e
  | .ok _ =>
    match ← Database.openPool config with
    | .error e => return .error e
    | .ok () =>
      match ← Database.applySchema with
      | .error e => return .error e
      | .ok schema =>
        match ← Database.countRows with
        | .error e => return .error e
        | .ok counts => return .ok (schema, counts)

/-- Sets up the database of a configuration, and says how that went. -/
def setUp (config : Database.Config) : MachineProgram (Except CommandError Unit) := do
  print "Initializing paylater database..."
  match ← ofDatabase (prepare config) with
  | .error e => return .error (.database e)
  | .ok (schema, counts) =>
    print ("Database ready (schema version " ++ toString schema.version ++ ").")
    print ("  payment_plans: " ++ toString counts.plans ++ " rows")
    print ("  payment_installments: " ++ toString counts.installments ++ " rows")
    print "paylater db-init complete."
    return .ok ()

end PaymentPlans.Command
