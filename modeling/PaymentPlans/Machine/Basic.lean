/-
# The machine that commands run on

A command asks the machine for variables of its environment and for files, has it write files,
and talks to a database server through it.  What it has to say it prints line by line; what it
reports on the way goes to a log.
-/
import PaymentPlans.Database.Basic

namespace PaymentPlans

namespace Machine

/-- The calls that a machine answers. -/
inductive Call where
  | environment (name : String)
  | readFile (path : String)
  /-- Looks whether there is anything at a path. -/
  | has (path : String)
  /-- Makes a directory and those that it is in. -/
  | makeDirectory (path : String)
  | writeFile (path text : String)
  /-- Lets only the owner read a file. -/
  | makePrivate (path : String)
  /-- Passes a call on to the database server. -/
  | database (c : Database.Call)
deriving DecidableEq

/-- What a call is answered by. -/
abbrev Answer : Call → Type
  | .environment _ => Option String
  | .readFile _ => Option String
  | .has _ => Bool
  | .makeDirectory _ => Bool
  | .writeFile _ _ => Bool
  | .makePrivate _ => Bool
  | .database c => Database.Answer c

/-- What a command lets out while it runs. -/
inductive Output where
  /-- Lines that it prints. -/
  | printed (text : String)
  /-- An event for the log. -/
  | logged (e : Event)
deriving DecidableEq

end Machine

/-- Programs of calls to a machine, with what they let out. -/
abbrev MachineProgram := Program Machine.Call Machine.Answer Machine.Output

namespace Machine

/-- Looks up a variable of the environment. -/
def environment? (name : String) : MachineProgram (Option String) := .ask (Call.environment name)

/-- Reads a file, if that can be done. -/
def readFile? (path : String) : MachineProgram (Option String) := .ask (Call.readFile path)

/-- Looks whether there is anything at a path. -/
def has (path : String) : MachineProgram Bool := .ask (Call.has path)

/-- Makes a directory; tells whether it is there. -/
def makeDirectory (path : String) : MachineProgram Bool := .ask (Call.makeDirectory path)

/-- Writes a file; tells whether that could be done. -/
def writeFile (path text : String) : MachineProgram Bool := .ask (Call.writeFile path text)

/-- Lets only the owner read a file; tells whether that could be done. -/
def makePrivate (path : String) : MachineProgram Bool := .ask (Call.makePrivate path)

/-- Prints lines. -/
def print (text : String) : MachineProgram Unit := .say (.printed text)

/-- A program of calls to a database server, which the machine passes on. -/
def ofDatabase (p : DatabaseProgram α) : MachineProgram α :=
  (p.mapNotes .logged).refine fun c => .ask (Call.database c)

end Machine

end PaymentPlans
