/-
# Plans, installments and what is asked for

The entities of the library, the requests that make them, and the view of a plan together with
its installments that callers are shown.  Amounts are text in a request and in a view, and
numbers in an entity.
-/
import PaymentPlans.Amount.Basic
import PaymentPlans.Identifier.Basic
import PaymentPlans.Instant.Basic
import PaymentPlans.Status

namespace PaymentPlans

/-! ## Entities -/

/-- What one user has agreed to pay. -/
structure Plan where
  id : Identifier
  userId : Identifier
  currency : String
  /-- The whole amount. -/
  amount : Amount
  status : PlanStatus
  /-- When the plan was stored. -/
  createdAt : Instant
  /-- When the plan was last changed. -/
  updatedAt : Instant
deriving DecidableEq

/-- One payment of a plan. -/
structure Installment where
  id : Identifier
  planId : Identifier
  currency : String
  amount : Amount
  dueAt : Instant
  status : InstallmentStatus
  createdAt : Instant
  updatedAt : Instant
deriving DecidableEq

/-! ## Requests of users -/

/-- One payment that a user asks for. -/
structure InstallmentRequest where
  /-- The amount as it was typed. -/
  amount : String
  currency : String
  dueAt : Instant
deriving DecidableEq

/-- A plan that a user asks for, with its payments in any order. -/
structure PlanRequest where
  /-- The identifier that the plan shall have, if the user chose one. -/
  id : Option Identifier
  userId : Identifier
  currency : String
  /-- The whole amount as it was typed. -/
  totalAmount : String
  installments : List InstallmentRequest
deriving DecidableEq

/-- Whose plan it is that shall be completed. -/
structure CompletionRequest where
  userId : Identifier
deriving DecidableEq

/-! ## Requests to a repository -/

/-- A plan to be stored. -/
structure NewPlan where
  /-- The identifier that the plan shall have; the repository chooses one if there is none. -/
  id : Option Identifier
  userId : Identifier
  currency : String
  /-- The whole amount, still as text. -/
  amount : String
  status : PlanStatus
deriving DecidableEq

/-- An installment to be stored. -/
structure NewInstallment where
  planId : Identifier
  currency : String
  /-- The amount of the payment, still as text. -/
  amount : String
  dueAt : Instant
  status : InstallmentStatus
deriving DecidableEq

/-! ## Views -/

/-- An installment as callers see it. -/
structure InstallmentView where
  id : Identifier
  planId : Identifier
  currency : String
  /-- The written form of the amount. -/
  amount : String
  dueAt : Instant
  status : InstallmentStatus
  createdAt : Instant
  updatedAt : Instant
deriving DecidableEq

/-- A plan as callers see it, with its installments in stored order. -/
structure PlanView where
  id : Identifier
  userId : Identifier
  currency : String
  /-- The written form of the whole amount. -/
  totalAmount : String
  status : PlanStatus
  createdAt : Instant
  updatedAt : Instant
  /-- The installments in stored order. -/
  installments : List InstallmentView
deriving DecidableEq

/-- The view of an installment. -/
def Installment.view (i : Installment) : InstallmentView where
  id := i.id
  planId := i.planId
  currency := i.currency
  amount := i.amount.text
  dueAt := i.dueAt
  status := i.status
  createdAt := i.createdAt
  updatedAt := i.updatedAt

/-- The view of a plan with these installments. -/
def Plan.view (p : Plan) (installments : List Installment) : PlanView where
  id := p.id
  userId := p.userId
  currency := p.currency
  totalAmount := p.amount.text
  status := p.status
  createdAt := p.createdAt
  updatedAt := p.updatedAt
  installments := installments.map Installment.view

end PaymentPlans
