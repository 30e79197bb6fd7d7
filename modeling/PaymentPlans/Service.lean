/-
# The service

Users create plans, list them and complete them.  The service is a program of calls to a
repository, whatever the repository is.

A plan is created by storing the plan and then one installment after the other, the earliest due
first.  This is not atomic: when an installment is refused, the plan and the installments before
it stay, and the error tells how far the schedule got.  To complete a plan is to show its first
installment as paid; nothing is stored.
-/
import PaymentPlans.Repository.Basic
import PaymentPlans.Service.Error

namespace PaymentPlans

namespace PlanRequest

/-- The installments of a request, the earliest due first; those due at the same instant stay in
the order of the request. -/
def schedule (request : PlanRequest) : List InstallmentRequest :=
  request.installments.mergeSort fun a b => a.dueAt.notAfter b.dueAt

/-- The plan that a request asks a repository to store. -/
def newPlan (request : PlanRequest) : NewPlan where
  id := request.id
  userId := request.userId
  currency := request.currency
  amount := request.totalAmount
  status := .pending

/-- The texts of all amounts of a request, the whole amount first. -/
def amounts (request : PlanRequest) : List String :=
  request.totalAmount :: request.installments.map InstallmentRequest.amount

end PlanRequest

/-- The installment of a plan that a request asks a repository to store. -/
def InstallmentRequest.newInstallment (planId : Identifier) (request : InstallmentRequest) :
    NewInstallment where
  planId := planId
  currency := request.currency
  amount := request.amount
  dueAt := request.dueAt
  status := .pending

namespace Service

open Program (say)

/-! ## Listing -/

/-- The error of a user whose plans could not be listed, where it is known which. -/
def listingError (userId : Identifier) (error : RepositoryError) : ServiceError :=
  if error.isNotFound then .noPlans userId else .plansNotListed userId error

/-- The installments of a plan. -/
def installmentsOf (planId : Identifier) :
    RepositoryProgram (Except ServiceError (List Installment)) := do
  match ← Repository.listInstallments planId with
  | .ok installments => return .ok installments
  | .error e => return .error (.installmentsNotListed planId e)

/-- The views of plans; the first plan whose installments cannot be listed ends it. -/
def viewAll : List Plan → RepositoryProgram (Except ServiceError (List PlanView))
  | [] => return .ok []
  | plan :: plans => do
    match ← installmentsOf plan.id with
    | .error e => return .error e
    | .ok installments =>
      match ← viewAll plans with
      | .error e => return .error e
      | .ok views => return .ok (plan.view installments :: views)

/-- All plans of a user with their installments.  A user without plans is an error, never an
empty list. -/
def list (userId : Identifier) : RepositoryProgram (Except ServiceError (List PlanView)) := do
  say (.loadingPlans userId)
  match ← Repository.listPlans userId with
  | .error e => return .error (listingError userId e)
  | .ok [] => return .error (.noPlans userId)
  | .ok plans => viewAll plans

/-! ## Creation -/

/-- Checks the text of an amount. -/
def checkAmount (text : String) : Except ServiceError Unit :=
  match readAmount text with
  | .ok _ => .ok ()
  | .error e => .error (.badAmount text e)

/-- Checks all amounts of a request, in its order. -/
def checkAmounts (request : PlanRequest) : Except ServiceError Unit :=
  request.amounts.forM checkAmount

/-- The error of a plan that a repository refused to store. -/
def planRefused (userId : Identifier) : RepositoryError → ServiceError
  | .noIdentifier reason => .noIdentifier none 0 (.noIdentifier reason)
  | .badAmount text cause => .badAmount text (.badAmount text cause)
  | e => .planNotCreated userId e

/-- The error of an installment that a repository refused to store. -/
def installmentRefused (planId : Identifier) (persisted requested : Nat) :
    RepositoryError → ServiceError
  | .noIdentifier reason => .noIdentifier (some planId) persisted (.noIdentifier reason)
  | e => .installmentNotCreated planId persisted requested e

/-- Stores installments one after the other, up to the first that is refused.  `created` are
those that are stored already, of `requested` in all. -/
def createInstallments (planId : Identifier) (requested : Nat) (created : List Installment) :
    List InstallmentRequest → RepositoryProgram (Except ServiceError (List Installment))
  | [] => return .ok created
  | next :: rest => do
    match ← Repository.createInstallment (next.newInstallment planId) with
    | .ok installment => createInstallments planId requested (created ++ [installment]) rest
    | .error e =>
      say (.installmentRefused planId created.length requested e)
      return .error (installmentRefused planId created.length requested e)

/-- Creates a pending plan with its installments.  All amounts are checked before anything is
stored. -/
def create (request : PlanRequest) : RepositoryProgram (Except ServiceError PlanView) := do
  match checkAmounts request with
  | .error e => return .error e
  | .ok () =>
    match ← Repository.createPlan request.newPlan with
    | .error e => return .error (planRefused request.userId e)
    | .ok plan =>
      let schedule := request.schedule
      match ← createInstallments plan.id schedule.length [] schedule with
      | .error e => return .error e
      | .ok installments =>
        say (.planCreated plan.id request.userId installments.length)
        return .ok (plan.view installments)

/-! ## Completion -/

/-- The installments with the first of them shown as paid. -/
def payFirst : List Installment → List Installment
  | [] => []
  | first :: rest => { first with status := .paid } :: rest

/-- What is reported about the installment that is shown as paid. -/
def payEvents (planId : Identifier) : List Installment → List Event
  | [] => [.nothingToPay planId]
  | first :: _ =>
    (if first.status = .paid then [.alreadyPaid planId first.id] else []) ++
      [.shownPaid planId first.id]

/-- A plan of a user with its first installment shown as paid.  Only the user's own plans are
searched. -/
def complete (planId : Identifier) (request : CompletionRequest) :
    RepositoryProgram (Except ServiceError PlanView) := do
  match ← Repository.listPlans request.userId with
  | .error e =>
    if e.isNotFound then return .error (.planNotFound request.userId planId)
    else return .error (.plansNotListed request.userId e)
  | .ok plans =>
    match plans.find? fun plan => plan.id = planId with
    | none => return .error (.planNotFound request.userId planId)
    | some plan =>
      match ← installmentsOf plan.id with
      | .error e => return .error e
      | .ok installments =>
        (payEvents planId installments).forM say
        return .ok (plan.view (payFirst installments))

end Service

end PaymentPlans
