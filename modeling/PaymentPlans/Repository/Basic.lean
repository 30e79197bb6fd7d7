/-
# Repositories

A repository stores plans and their installments and lists them again.  It is known by the four
calls that it answers; what is built on it is a program of such calls.
-/
import PaymentPlans.Plan
import PaymentPlans.Program
import PaymentPlans.Repository.Event

namespace PaymentPlans

namespace Repository

/-- The calls that a repository answers. -/
inductive Call where
  | createPlan (plan : NewPlan)
  /-- Lists the plans of a user, the newest first. -/
  | listPlans (userId : Identifier)
  | createInstallment (installment : NewInstallment)
  /-- Lists the installments of a plan in stored order. -/
  | listInstallments (planId : Identifier)
deriving DecidableEq

/-- What a call is answered by, unless it is refused. -/
abbrev Call.Result : Call → Type
  | createPlan _ => Plan
  | listPlans _ => List Plan
  | createInstallment _ => Installment
  | listInstallments _ => List Installment

/-- The text of the amount that a call is to store. -/
def Call.amount? : Call → Option String
  | createPlan new => some new.amount
  | createInstallment new => some new.amount
  | listPlans _ | listInstallments _ => none

/-- What a call is answered by. -/
abbrev Answer (c : Call) : Type := Except RepositoryError c.Result

end Repository

/-- Programs of calls to a repository, with a log. -/
abbrev RepositoryProgram := Program Repository.Call Repository.Answer Event

namespace Repository

/-- Stores a plan. -/
def createPlan (plan : NewPlan) : RepositoryProgram (Except RepositoryError Plan) :=
  .ask (Call.createPlan plan)

/-- Lists the plans of a user, the newest first. -/
def listPlans (userId : Identifier) : RepositoryProgram (Except RepositoryError (List Plan)) :=
  .ask (Call.listPlans userId)

/-- Stores an installment of a plan. -/
def createInstallment (installment : NewInstallment) :
    RepositoryProgram (Except RepositoryError Installment) :=
  .ask (Call.createInstallment installment)

/-- Lists the installments of a plan in stored order. -/
def listInstallments (planId : Identifier) :
    RepositoryProgram (Except RepositoryError (List Installment)) :=
  .ask (Call.listInstallments planId)

end Repository

end PaymentPlans
