/-
# Requests as JSON

How the requests of users are read from JSON: members in any order and each at most once, members
of other names skipped, or a list of the fields in their order.
-/
import PaymentPlans.Identifier.Reader
import PaymentPlans.Instant.Reader
import PaymentPlans.Json.Reader
import PaymentPlans.Plan

namespace PaymentPlans.Json

/-- Takes an identifier. -/
def readIdentifier : Reader Identifier :=
  readText fun text => (Identifier.ofExactText text).toOption

/-- Takes an instant in the loose form. -/
def readInstant : Reader Instant := readText fun text => (Instant.ofLooseText text).toOption

/-- Takes the state of a plan. -/
def readPlanStatus : Reader PlanStatus := readCase PlanStatus.ofText?

/-- Takes the state of an installment. -/
def readInstallmentStatus : Reader InstallmentStatus := readCase InstallmentStatus.ofText?

/-! ## Installments -/

/-- What has been read of an installment. -/
structure InstallmentDraft where
  amount : Option String := none
  currency : Option String := none
  dueAt : Option Instant := none

/-- Takes a member of an installment behind its key. -/
def InstallmentDraft.readMember (key : String) (draft : InstallmentDraft) :
    Reader InstallmentDraft := fun cs =>
  match key with
  | "amount" => do
    let (amount, cs) ← readOnce draft.amount readString cs
    return ({ draft with amount := some amount }, cs)
  | "currency" => do
    let (currency, cs) ← readOnce draft.currency readString cs
    return ({ draft with currency := some currency }, cs)
  | "due_at" => do
    let (dueAt, cs) ← readOnce draft.dueAt readInstant cs
    return ({ draft with dueAt := some dueAt }, cs)
  | _ => skipMember draft cs

/-- The installment whose members have all been read. -/
def InstallmentDraft.finish (draft : InstallmentDraft) : Except Fault InstallmentRequest := do
  return { amount := ← require draft.amount, currency := ← require draft.currency,
           dueAt := ← require draft.dueAt }

/-- Takes the fields of an installment from a list. -/
def readInstallmentFields : Reader InstallmentRequest := fun cs => do
  let (amount, cs) ← readRequired readString true cs
  let (currency, cs) ← readRequired readString false cs
  let (dueAt, cs) ← readRequired readInstant false cs
  return ({ amount, currency, dueAt }, cs)

/-- Takes an installment. -/
def readInstallmentRequest : Reader InstallmentRequest :=
  readRecord {} InstallmentDraft.readMember InstallmentDraft.finish readInstallmentFields

/-! ## Plans -/

/-- What has been read of a plan. -/
structure PlanDraft where
  id : Option (Option Identifier) := none
  userId : Option Identifier := none
  currency : Option String := none
  totalAmount : Option String := none
  installments : Option (List InstallmentRequest) := none

/-- Takes a member of a plan behind its key. -/
def PlanDraft.readMember (key : String) (draft : PlanDraft) : Reader PlanDraft := fun cs =>
  match key with
  | "id" => do
    let (id, cs) ← readOnce draft.id (readOption readIdentifier) cs
    return ({ draft with id := some id }, cs)
  | "user_id" => do
    let (userId, cs) ← readOnce draft.userId readIdentifier cs
    return ({ draft with userId := some userId }, cs)
  | "currency" => do
    let (currency, cs) ← readOnce draft.currency readString cs
    return ({ draft with currency := some currency }, cs)
  | "total_amount" => do
    let (totalAmount, cs) ← readOnce draft.totalAmount readString cs
    return ({ draft with totalAmount := some totalAmount }, cs)
  | "installments" => do
    let (installments, cs) ← readOnce draft.installments (readList readInstallmentRequest) cs
    return ({ draft with installments := some installments }, cs)
  | _ => skipMember draft cs

/-- The plan whose members have all been read.  Identifier and payments may be missing. -/
def PlanDraft.finish (draft : PlanDraft) : Except Fault PlanRequest := do
  return { id := draft.id.getD none, userId := ← require draft.userId,
           currency := ← require draft.currency, totalAmount := ← require draft.totalAmount,
           installments := draft.installments.getD [] }

/-- Takes the fields of a plan from a list.  The payments may be missing. -/
def readPlanFields : Reader PlanRequest := fun cs => do
  let (id, cs) ← readItem (readOption readIdentifier) true cs
  let (userId, cs) ← readRequired readIdentifier id.isNone cs
  let (currency, cs) ← readRequired readString false cs
  let (totalAmount, cs) ← readRequired readString false cs
  let (installments, cs) ← readItem (readList readInstallmentRequest) false cs
  return ({ id := id.getD none, userId, currency, totalAmount,
            installments := installments.getD [] }, cs)

/-- Takes a plan. -/
def readPlanRequest : Reader PlanRequest :=
  readRecord {} PlanDraft.readMember PlanDraft.finish readPlanFields

/-! ## Completions -/

/-- Takes a member of a completion behind its key. -/
def readCompletionMember (key : String) (user : Option Identifier) :
    Reader (Option Identifier) := fun cs =>
  match key with
  | "user_id" => (readOnce user readIdentifier cs).map fun (id, cs) => (some id, cs)
  | _ => skipMember user cs

/-- Takes a completion. -/
def readCompletionRequest : Reader CompletionRequest :=
  readRecord none readCompletionMember (fun user => (require user).map CompletionRequest.mk)
    fun cs => (readRequired readIdentifier true cs).map fun (id, cs) => (⟨id⟩, cs)

end PaymentPlans.Json
