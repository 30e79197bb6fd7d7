/-
# What can go wrong in a repository

The causes for which a repository refuses a call, and their wording.
-/
import PaymentPlans.Amount.Reader
import PaymentPlans.Identifier.Reader
import PaymentPlans.Text.Quoted

namespace PaymentPlans

/-- Why a repository refuses a call. -/
inductive RepositoryError where
  /-- Nothing was ever stored under a key. -/
  | notFound (entity : String) (key : Identifier)
  | noIdentifier (reason : String)
  | badAmount (text : String) (cause : Amount.Fault)
  | badIdentifier (text : String) (cause : Identifier.Fault)
  /-- A row holds a value that no entity has. -/
  | unsupportedRow (shape reason : String)
  /-- A query failed; the causes are named from the nearest to the farthest. -/
  | queryFailed (operation : String) (causes : List String)
deriving DecidableEq

namespace RepositoryError

/-- Whether an error says that nothing was found. -/
def isNotFound : RepositoryError → Bool
  | notFound .. => true
  | _ => false

/-- The wording of an error. -/
def message : RepositoryError → String
  | notFound entity key => "no " ++ entity ++ " records found for " ++ key.text
  | noIdentifier _ => "failed to generate uuid"
  | badAmount text _ => "failed to set value " ++ Text.quoted text ++ " as decimal value"
  | badIdentifier text _ => "failed to parse value " ++ Text.quoted text ++ " as UUID"
  | unsupportedRow shape reason => shape ++ " row does not match any supported entity: " ++ reason
  | queryFailed operation _ => "failed to run query " ++ operation

/-- The wording of what caused an error, from the nearest cause to the farthest. -/
def causes : RepositoryError → List String
  | notFound .. => []
  | noIdentifier reason => ["identifier generator failed: " ++ reason]
  | badAmount _ cause => [cause.message]
  | badIdentifier _ cause => [cause.message]
  | unsupportedRow .. => []
  | queryFailed _ causes => causes

end RepositoryError

/-- Reads an amount for a repository. -/
def readAmount (text : String) : Except RepositoryError Amount :=
  (Amount.ofText text).mapError (.badAmount text)

theorem exists_amount {text : String} (h : (Amount.ofText text).isOk) :
    ∃ amount, Amount.ofText text = .ok amount := by
  cases hread : Amount.ofText text with
  | ok amount => exact ⟨amount, rfl⟩
  | error fault => simp [hread, Except.isOk, Except.toBool] at h

theorem readAmount_eq_ok {text : String} {amount : Amount} (h : Amount.ofText text = .ok amount) :
    readAmount text = .ok amount := by
  rw [readAmount, h]
  rfl

theorem readAmount_eq_error {text : String} {fault : Amount.Fault}
    (h : Amount.ofText text = .error fault) : readAmount text = .error (.badAmount text fault) := by
  rw [readAmount, h]
  rfl

/-- Reads an identifier for a repository. -/
def readIdentifier (text : String) : Except RepositoryError Identifier :=
  (Identifier.ofText text).mapError (.badIdentifier text)

end PaymentPlans
