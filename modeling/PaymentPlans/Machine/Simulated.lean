/-
# A simulated machine

A machine whose files, environment and database server are values.
-/
import PaymentPlans.Database.Script
import PaymentPlans.Machine.Basic
import PaymentPlans.Machine.Files

namespace PaymentPlans

/-- A simulated machine. -/
structure Machine where
  /-- Its files and directories. -/
  tree : FileTree := {}
  /-- The directory that relative paths start from. -/
  directory : Path := []
  environment : List (String × String) := []
  server : Database.Server := {}

namespace Machine

/-- The path that a text leads to. -/
def resolve? (m : Machine) (path : String) : Option Path := m.tree.resolve? m.directory path

/-- Takes over changed files and directories, if they could be changed. -/
def change (m : Machine) (changed : Option FileTree) : Bool × Machine :=
  match changed with
  | some tree => (true, { m with tree })
  | none => (false, m)

/-- Answers a call. -/
def answer (m : Machine) : (c : Call) → Answer c × Machine
  | .environment name => (m.environment.lookup name, m)
  | .readFile path =>
    ((m.resolve? path >>= m.tree.file?).map File.text, m)
  | .has path => ((m.resolve? path).any m.tree.has, m)
  | .makeDirectory path => m.change (m.tree.makeDirectories? m.directory path)
  | .writeFile path text => m.change (m.resolve? path >>= fun p => m.tree.write? p text)
  | .makePrivate path => m.change (m.resolve? path >>= m.tree.makePrivate?)
  | .database c =>
    let (answer, server) := m.server.answer c
    (answer, { m with server })

/-- Runs a program on a machine. -/
def run (m : Machine) (p : MachineProgram α) : Run Output Machine α :=
  p.run (fun c m => m.answer c) m

end Machine

end PaymentPlans
