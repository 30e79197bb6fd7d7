/-
# What can go wrong with a command

The errors of the settings, of the database, of plan files and of the service, each with what a
command was doing when it met them.
-/
import PaymentPlans.Database.Basic
import PaymentPlans.PlanFile
import PaymentPlans.Service.Error
import PaymentPlans.Settings.Access

namespace PaymentPlans

/-- Why a command fails. -/
inductive CommandError where
  /-- The settings cannot be loaded or saved. -/
  | settings (e : Settings.Error)
  /-- There are settings already. -/
  | settingsPresent (path : String)
  | database (e : Database.Error)
  | planFileNotRead (file : String)
  | badPlanFile (file : String) (e : PlanFile.Error)
  | badPlanId (e : RepositoryError)
  | badUser (e : RepositoryError)
  | service (e : ServiceError)
deriving DecidableEq

namespace CommandError

/-- The wording of an error. -/
def message : CommandError → String
  | settings e => e.message
  | settingsPresent path =>
    "config file already exists at " ++ path ++ "\nUse --force to overwrite."
  | database e => e.message
  | planFileNotRead file => "failed to read plan file: " ++ file
  | badPlanFile file _ => "failed to parse plan file: " ++ file
  | badPlanId _ => "invalid plan ID"
  | badUser _ => "invalid --user"
  | service e => e.message

/-- The wording of what caused an error, from the nearest cause to the farthest. -/
def causes : CommandError → List String
  | badPlanFile _ e => e.message :: e.causes
  | badPlanId e | badUser e => e.message :: e.causes
  | service e => e.causes
  | _ => []

end CommandError

end PaymentPlans
