/-
# What can go wrong in the service

Each error names the user or the plan that it concerns and, unless it only says that nothing was
found, the error of the repository behind it.
-/
import PaymentPlans.Repository.Error

namespace PaymentPlans

/-- Why the service refuses a request. -/
inductive ServiceError where
  /-- A user has no plans. -/
  | noPlans (userId : Identifier)
  /-- No plan of the user has this identifier. -/
  | planNotFound (userId planId : Identifier)
  /-- There was no fresh identifier.  If the plan was stored already, it and so many of its
  installments stay. -/
  | noIdentifier (planId : Option Identifier) (persisted : Nat) (source : RepositoryError)
  | badAmount (text : String) (source : RepositoryError)
  | planNotCreated (userId : Identifier) (source : RepositoryError)
  /-- An installment could not be stored; the plan and the installments before it stay. -/
  | installmentNotCreated (planId : Identifier) (persisted requested : Nat)
      (source : RepositoryError)
  | plansNotListed (userId : Identifier) (source : RepositoryError)
  | installmentsNotListed (planId : Identifier) (source : RepositoryError)
deriving DecidableEq

namespace ServiceError

/-- Whether an error says that nothing was found. -/
def isNotFound : ServiceError → Bool
  | noPlans .. | planNotFound .. => true
  | _ => false

/-- The error of the repository behind an error. -/
def source? : ServiceError → Option RepositoryError
  | noPlans .. | planNotFound .. => none
  | noIdentifier _ _ source | badAmount _ source | planNotCreated _ source
  | installmentNotCreated _ _ _ source | plansNotListed _ source
  | installmentsNotListed _ source => some source

/-- The wording of an error. -/
def message : ServiceError → String
  | noPlans userId => "no payment plans found for user " ++ userId.text
  | planNotFound _ planId => "failed to get payment plan: " ++ planId.text
  | noIdentifier .. => "failed to generate uuid"
  | badAmount text _ => "failed to parse amount " ++ Text.quoted text ++ " as a decimal"
  | planNotCreated userId _ => "failed to create payment plan for user " ++ userId.text
  | installmentNotCreated planId persisted requested _ =>
    "failed to create payment plan installment for plan " ++ planId.text ++ " (" ++
      toString persisted ++ " of " ++ toString requested ++ " installments persisted)"
  | plansNotListed userId _ => "failed to get payment plans for user: " ++ userId.text
  | installmentsNotListed planId _ =>
    "failed to get payment installments for plan: " ++ planId.text

/-- The wording of what caused an error, from the nearest cause to the farthest. -/
def causes (e : ServiceError) : List String :=
  match e.source? with
  | some source => source.message :: source.causes
  | none => []

end ServiceError

end PaymentPlans
