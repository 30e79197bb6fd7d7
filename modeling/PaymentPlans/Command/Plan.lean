/-
# Commands on plans

What was typed is read before a connection is opened; then the service is asked, and what it
shows is printed as JSON.
-/
import PaymentPlans.Command.Error
import PaymentPlans.Invocation.Basic
import PaymentPlans.Json.View
import PaymentPlans.Relational.Repository
import PaymentPlans.Service

namespace PaymentPlans

open Machine (ofDatabase print readFile?)

namespace PlanCommand

/-- The program of calls to a repository, over the tables of the database that is connected. -/
def onTables (p : RepositoryProgram α) : DatabaseProgram α :=
  Database.ofStatements (p.refine Relational.respond)

/-- Connects, asks the service, and prints what it shows. -/
def serve (connect : MachineProgram (Except CommandError Unit))
    (p : RepositoryProgram (Except ServiceError α)) (json : α → Json.Value) :
    MachineProgram (Except CommandError Unit) := do
  match ← connect with
  | .error e => return .error e
  | .ok () =>
    match ← ofDatabase (onTables p) with
    | .error e => return .error (.service e)
    | .ok shown =>
      print (json shown).text
      return .ok ()

/-- Runs a command, which connects as it is told. -/
def run (connect : MachineProgram (Except CommandError Unit)) :
    PlanCommand → MachineProgram (Except CommandError Unit)
  | create file => do
    match ← readFile? file with
    | none => return .error (.planFileNotRead file)
    | some text =>
      match PlanFile.read text with
      | .error e => return .error (.badPlanFile file e)
      | .ok request => serve connect (Service.create request) PlanView.json
  | list user =>
    match readIdentifier user with
    | .error e => return .error (.badUser e)
    | .ok userId =>
      serve connect (Service.list userId) fun views => .list (views.map PlanView.json)
  | complete planId user =>
    match readIdentifier planId, readIdentifier user with
    | .error e, _ => return .error (.badPlanId e)
    | .ok _, .error e => return .error (.badUser e)
    | .ok planId, .ok userId => serve connect (Service.complete planId ⟨userId⟩) PlanView.json

end PlanCommand

end PaymentPlans
