/-
# Plan files

A plan is asked for in a TOML file: a table with the user, the currency and the whole amount, and
a list of installments.  Amounts are strings, so that no digit is lost; a due date is a moment
with its offset from universal time, or a string that holds one.
-/
import PaymentPlans.Identifier.Reader
import PaymentPlans.Instant.Reader
import PaymentPlans.Plan
import PaymentPlans.Text.Quoted
import PaymentPlans.Toml.Reader

namespace PaymentPlans

namespace PlanFile

open Toml (Value)

/-- One installment of a file. -/
structure Entry where
  amount : String
  currency : String
  /-- What was typed for the day when the payment is due. -/
  dueAt : Value

/-- Why a value is no due date. -/
inductive DueFault where
  /-- It is neither a moment nor a string. -/
  | otherKind (kind : String)
  /-- It is not written as an instant. -/
  | unreadable (text : String) (fault : Instant.Fault)
deriving DecidableEq, Repr

/-- What goes wrong with a plan file. -/
inductive Error where
  /-- It is no TOML, or not of the shape of a plan. -/
  | misshapen
  /-- The due date of an installment, counted from one, cannot be read. -/
  | badInstallment (number : Nat) (fault : DueFault)
deriving DecidableEq, Repr

/-- The wording of an error. -/
def Error.message : Error → String
  | misshapen => "invalid plan file"
  | badInstallment number _ => "installment #" ++ toString number

/-- The wording of why a value is no due date, and of what caused that. -/
def DueFault.messages : DueFault → List String
  | otherKind kind => ["due_at must be a datetime, got " ++ kind]
  | unreadable text fault =>
    ["due_at " ++ Text.quoted text ++ " is not an RFC 3339 datetime with offset", fault.message]

/-- The wording of what caused an error, from the nearest cause to the farthest. -/
def Error.causes : Error → List String
  | misshapen => []
  | badInstallment _ fault => fault.messages

end PlanFile

/-- What a plan file says. -/
structure PlanFile where
  id : Option Identifier
  userId : Identifier
  currency : String
  totalAmount : String
  /-- The installments, in the order of the file. -/
  entries : List PlanFile.Entry

namespace PlanFile

open Toml (Value)

/-! ## The shape of a file -/

/-- The number that sixteen bytes write. -/
def numberOfBytes? (bytes : List Value) : Option Nat :=
  if bytes.length = 16 then
    bytes.foldlM (fun n byte => match byte with
      | .integer b => if 0 ≤ b ∧ b < 256 then some (n * 256 + b.toNat) else none
      | _ => none) 0
  else none

/-- The identifier that a value is: its text, or its bytes. -/
def identifier? (v : Value) : Option Identifier :=
  match v with
  | .text s => (Identifier.ofExactText s).toOption
  | v => v.items? >>= fun items => (numberOfBytes? (items.take 16)).map .ofNat

/-- The installment that a value is.  A due date may also be a table that stands for a moment. -/
def Entry.ofToml? (v : Value) : Option Entry :=
  match v.fields? ["amount", "currency", "due_at"] with
  | some [some amount, some currency, some dueAt] => do
    return ⟨← amount.text?, ← currency.text?, ← dueAt.settle?⟩
  | _ => none

/-- The installments that a value is; none if it is missing. -/
def entries? : Option Value → Option (List Entry)
  | none => some []
  | some v => v.items? >>= fun items => items.mapM Entry.ofToml?

/-- What a file with these two parts says. -/
def ofParts? (plan : Value) (installments : Option Value) : Option PlanFile :=
  match plan.fields? ["id", "user_id", "currency", "total_amount"] with
  | some [id, some userId, some currency, some totalAmount] => do
    let id ← match id with
      | none => pure none
      | some v => (identifier? v).map some
    return { id, userId := ← identifier? userId, currency := ← currency.text?,
             totalAmount := ← totalAmount.text?, entries := ← entries? installments }
  | _ => none

/-- What a document says. -/
def ofToml? (document : Value) : Option PlanFile :=
  match document.fields? ["plan", "installments"] with
  | some [some plan, installments] => ofParts? plan installments
  | _ => none

/-! ## The request of a file -/

/-- Reads the text of a due date. -/
def readDue (text : String) : Except DueFault Instant :=
  (Instant.ofExactText text).mapError (.unreadable text)

/-- The instant that a value gives as a due date. -/
def due : Value → Except DueFault Instant
  | .moment m => readDue m.text
  | .text s => readDue s
  | v => .error (.otherKind v.kind)

/-- The request for an installment. -/
def Entry.request (e : Entry) : Except DueFault InstallmentRequest :=
  (due e.dueAt).map fun dueAt => { amount := e.amount, currency := e.currency, dueAt }

/-- The requests for some installments, the first of which has the given number. -/
def requests (number : Nat) : List Entry → Except Error (List InstallmentRequest)
  | [] => .ok []
  | e :: entries => do
    let first ← e.request.mapError (.badInstallment number)
    return first :: (← requests (number + 1) entries)

/-- The request that a file makes. -/
def request (file : PlanFile) : Except Error PlanRequest := do
  return { id := file.id, userId := file.userId, currency := file.currency,
           totalAmount := file.totalAmount, installments := ← requests 1 file.entries }

/-- Reads the request that the text of a file makes. -/
def read (text : String) : Except Error PlanRequest :=
  match Toml.read text >>= ofToml? with
  | none => .error .misshapen
  | some file => file.request

end PlanFile

end PaymentPlans
