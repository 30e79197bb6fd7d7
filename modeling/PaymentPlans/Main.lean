/-
# The program

The commands, run on the machine that the program is started on.  This build has no way to reach
a database server, and so every connection is refused.
-/
import PaymentPlans.Invocation.Run

namespace PaymentPlans

namespace Machine

/-- Whether something can be done. -/
def succeeds (action : IO Unit) : IO Bool := do
  try
    action
    return true
  catch _ => return false

/-- Answers a call on the machine that the program runs on. -/
def perform : (c : Call) → IO (Answer c)
  | .environment name => IO.getEnv name
  | .readFile path => do
    try
      return some (← IO.FS.readFile path)
    catch _ => return none
  | .has path => succeeds do discard (IO.FS.realPath path)
  | .makeDirectory path => succeeds (IO.FS.createDirAll path)
  | .writeFile path text => succeeds (IO.FS.writeFile path text)
  | .makePrivate path =>
    succeeds (IO.setAccessRights path { user := { read := true, write := true } })
  | .database (.connect _) => return false
  | .database (.send _) => return .error ⟨"not connected"⟩
  | .database .migrate => return false

/-- Lets out what a command lets out. -/
def emit : Output → IO Unit
  | .printed text => IO.println text
  | .logged e => IO.eprintln (e.level.text ++ " " ++ e.message)

/-- Runs a program on the machine that the program runs on. -/
def execute {α : Type} : MachineProgram α → IO α
  | .done a => return a
  | .call c next => do execute (next (← perform c))
  | .note output next => do
    emit output
    execute next

end Machine

/-- How the program is used. -/
def usage : String :=
  "usage: paylater [--database-url URL] COMMAND\n\n" ++
    "  init [--db-url URL] [--force]     write a config file\n" ++
    "  db-init                           set up the database\n" ++
    "  plan create FILE                  create a plan from a TOML file\n" ++
    "  plan list --user USER             list the plans of a user\n" ++
    "  plan complete PLAN --user USER    pay the next installment of a plan"

/-- Says how the program ended, if it did not succeed. -/
def report : Invocation.Outcome → IO Unit
  | .succeeded => return ()
  | .failed e => do
    IO.eprintln ("Error: " ++ e.message)
    unless e.causes.isEmpty do
      IO.eprintln "\nCaused by:"
      for cause in e.causes do
        IO.eprintln ("    " ++ cause)
  | .refused .help => IO.println usage
  | .refused _ => IO.eprintln usage

end PaymentPlans

/-- Runs the program. -/
def main (args : List String) : IO UInt32 := do
  let outcome ← PaymentPlans.Machine.execute (PaymentPlans.Invocation.start args)
  PaymentPlans.report outcome
  return outcome.code.toUInt32
