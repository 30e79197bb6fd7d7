/-
# Invocations

What the program can be asked to do from a shell.
-/
import PaymentPlans.Database.Config

namespace PaymentPlans

/-- What can be done with plans. -/
inductive PlanCommand where
  /-- Creates the plan that a file asks for. -/
  | create (file : String)
  | list (user : String)
  /-- Shows a plan with its next installment paid. -/
  | complete (planId user : String)
deriving DecidableEq, Repr

/-- What the program can do. -/
inductive Command where
  /-- Writes the file of the settings, over one that is there only if forced. -/
  | init (url : String) (force : Bool)
  | initDatabase
  | plan (c : PlanCommand)
deriving DecidableEq, Repr

/-- A command, and the address of the database if it is given with it. -/
structure Invocation where
  url : Option String := none
  command : Command
deriving DecidableEq, Repr

end PaymentPlans
