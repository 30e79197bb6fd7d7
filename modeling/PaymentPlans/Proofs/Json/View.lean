/-
# Views that are sent in again

A view that was printed is understood as a request: the members that a request has are taken, at
both levels, and the others are skipped.
-/
import PaymentPlans.Json.Request
import PaymentPlans.Json.View
import PaymentPlans.Proofs.Identifier.Written
import PaymentPlans.Proofs.Instant.Written
import PaymentPlans.Proofs.Json.Written

namespace PaymentPlans

open Json (Adds AddsAll Takes)

/-- What an installment asks for when its view is sent in. -/
def InstallmentView.request (v : InstallmentView) : InstallmentRequest where
  amount := v.amount
  currency := v.currency
  dueAt := v.dueAt

/-- What a plan asks for when its view is sent in. -/
def PlanView.request (v : PlanView) : PlanRequest where
  id := some v.id
  userId := v.userId
  currency := v.currency
  totalAmount := v.totalAmount
  installments := v.installments.map InstallmentView.request

namespace Json

lemma takes_readIdentifier (id : Identifier) : Takes readIdentifier (.string id.text) id :=
  takes_readText (by rw [Identifier.ofExactText_text]; rfl)

lemma takes_readInstant (i : Instant) : Takes readInstant (.string i.text) i :=
  takes_readText (by rw [Instant.ofLooseText_text]; rfl)

variable {σ : Type}

/-- A member that no reader knows is skipped. -/
lemma adds_skip {member : String → σ → Reader σ} {key : String} {state : σ}
    (h : member key state = skipMember state) (s : String) : Adds member key (.string s) state state :=
  fun depth rest => h ▸ skipMember_string state s depth rest

/-- A member that is known is taken into an empty place. -/
lemma adds_once {α : Type} {member : String → σ → Reader σ} {key : String} {state : σ}
    {read : Reader α} {v : Value} {a : α} (set : α → σ)
    (h : member key state = fun cs => do
      let (a, cs) ← readOnce none read cs
      return (set a, cs))
    (htakes : Takes read v a) : Adds member key v state (set a) := by
  intro depth rest
  simp only [h, readOnce_none htakes]
  rfl

/-- An installment is taken from its view. -/
lemma takes_readInstallmentRequest (v : InstallmentView) :
    Takes readInstallmentRequest v.json v.request := by
  let draft : InstallmentDraft := { currency := some v.currency }
  let draft' := { draft with amount := some v.amount }
  have hcurrency : Adds InstallmentDraft.readMember "currency" (.string v.currency) {} draft :=
    adds_once (fun currency => InstallmentDraft.mk none (some currency) none) rfl
      (takes_readString v.currency)
  have hamount : Adds InstallmentDraft.readMember "amount" (.string v.amount) draft draft' :=
    adds_once (fun amount => { draft with amount := some amount }) rfl (takes_readString v.amount)
  have hdue : Adds InstallmentDraft.readMember "due_at" (.string v.dueAt.text) draft'
      { draft' with dueAt := some v.dueAt } :=
    adds_once (fun dueAt => { draft' with dueAt := some dueAt }) rfl (takes_readInstant v.dueAt)
  exact takes_readRecord
    (.cons (adds_skip rfl v.id.text) <| .cons (adds_skip rfl v.planId.text) <|
      .cons hcurrency <| .cons hamount <| .cons hdue <|
      .cons (adds_skip rfl v.status.text) <| .cons (adds_skip rfl v.createdAt.text) <|
      .cons (adds_skip rfl v.updatedAt.text) <| .nil _) rfl

lemma forall₂_takes_readInstallmentRequest (vs : List InstallmentView) :
    List.Forall₂ (Takes readInstallmentRequest) (vs.map InstallmentView.json)
      (vs.map InstallmentView.request) := by
  induction vs with
  | nil => exact .nil
  | cons v vs ih => exact .cons (takes_readInstallmentRequest v) ih

/-- A plan is taken from its view, with its installments. -/
lemma takes_readPlanRequest (v : PlanView) : Takes readPlanRequest v.json v.request := by
  let named : PlanDraft := { id := some (some v.id) }
  let owned := { named with userId := some v.userId }
  let priced := { owned with currency := some v.currency }
  let summed := { priced with totalAmount := some v.totalAmount }
  have hid : Adds PlanDraft.readMember "id" (.string v.id.text) {} named :=
    adds_once (fun id => PlanDraft.mk (some id) none none none none) rfl
      (takes_readOption (takes_readIdentifier v.id))
  have huser : Adds PlanDraft.readMember "user_id" (.string v.userId.text) named owned :=
    adds_once (fun userId => { named with userId := some userId }) rfl
      (takes_readIdentifier v.userId)
  have hcurrency : Adds PlanDraft.readMember "currency" (.string v.currency) owned priced :=
    adds_once (fun currency => { owned with currency := some currency }) rfl
      (takes_readString v.currency)
  have hamount : Adds PlanDraft.readMember "total_amount" (.string v.totalAmount) priced summed :=
    adds_once (fun amount => { priced with totalAmount := some amount }) rfl
      (takes_readString v.totalAmount)
  have hinstallments : Adds PlanDraft.readMember "installments"
      (.list (v.installments.map InstallmentView.json)) summed
      { summed with installments := some (v.installments.map InstallmentView.request) } :=
    adds_once (fun installments => { summed with installments := some installments }) rfl
      (takes_readList (forall₂_takes_readInstallmentRequest v.installments))
  exact takes_readRecord
    (.cons hid <| .cons huser <| .cons hcurrency <| .cons hamount <|
      .cons (adds_skip rfl v.status.text) <| .cons (adds_skip rfl v.createdAt.text) <|
      .cons (adds_skip rfl v.updatedAt.text) <| .cons hinstallments <| .nil _) rfl

/-- What a reader takes from a written value it also makes of the whole text. -/
lemma readAll_text {α : Type} {read : Reader α} {v : Value} {a : α} (h : Takes read v a) :
    readAll read v.text = .ok a := by
  have hread := h [] 0 [] nofun
  rw [List.nil_append, List.append_nil] at hread
  rw [readAll, Value.text, String.toList_ofList, hread]
  rfl

end Json

/-- **A printed plan can be sent in again.**  Its view asks for the plan under its own identifier,
with the same user, currency and amount, and in the same order for installments with the same
amounts, currencies and due dates. -/
theorem Plan.readAll_view_text (plan : Plan) (installments : List Installment) :
    Json.readAll Json.readPlanRequest (plan.view installments).json.text =
      .ok { id := some plan.id
            userId := plan.userId
            currency := plan.currency
            totalAmount := (plan.view installments).totalAmount
            installments := installments.map fun i =>
              { amount := i.view.amount, currency := i.currency, dueAt := i.dueAt } } := by
  rw [Json.readAll_text (Json.takes_readPlanRequest _), PlanView.request]
  simp only [view, List.map_map]
  rfl

end PaymentPlans
