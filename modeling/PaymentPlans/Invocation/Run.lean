/-
# Running an invocation

The command of an invocation as a program for the machine, and how the program as a whole ends.
-/
import PaymentPlans.Command.Plan
import PaymentPlans.Command.Setup
import PaymentPlans.Invocation.Reader

namespace PaymentPlans

namespace Command

/-- Goes on with the database that is to be used. -/
def withConfig (url : Option String)
    (next : Database.Config → MachineProgram (Except CommandError Unit)) :
    MachineProgram (Except CommandError Unit) := do
  match ← Settings.resolve url with
  | .error e => return .error (.settings e)
  | .ok config => next config

/-- Connects to the database of a configuration. -/
def connect (config : Database.Config) : MachineProgram (Except CommandError Unit) := do
  return (← Machine.ofDatabase (Database.openPool config)).mapError .database

/-- Runs a command, with the address of the database if it was given. -/
def run (url : Option String) : Command → MachineProgram (Except CommandError Unit)
  | init settingsUrl force => writeSettings settingsUrl force
  | initDatabase => withConfig url setUp
  | plan c => withConfig url fun config => c.run (connect config)

end Command

namespace Invocation

/-- How the program ends. -/
inductive Outcome where
  /-- The command succeeded. -/
  | succeeded
  /-- The command failed. -/
  | failed (e : CommandError)
  /-- The words were no invocation. -/
  | refused (fault : Fault)
deriving DecidableEq

/-- The number that tells a shell how the program ended.  To be asked for help is no failure. -/
def Outcome.code : Outcome → Nat
  | succeeded => 0
  | failed _ => 1
  | refused .help => 0
  | refused _ => 2

/-- Runs the program with the words of an invocation. -/
def start (words : List String) : MachineProgram Outcome :=
  match read words with
  | .error fault => return .refused fault
  | .ok invocation => do
    match ← invocation.command.run invocation.url with
    | .error e => return .failed e
    | .ok () => return .succeeded

end Invocation

end PaymentPlans
