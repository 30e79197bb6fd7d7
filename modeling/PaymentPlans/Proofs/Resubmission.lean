/-
# Amounts that are submitted again

Whoever reads an amount in a view can submit it again, and the same amount is stored, with all
its places, in memory as in a database.
-/
import PaymentPlans.Proofs.Amount.Written
import PaymentPlans.Proofs.Memory.Effect
import PaymentPlans.Proofs.Relational.Calls

namespace PaymentPlans

open Repository (Call Answer)

/-- The amounts that a view shows. -/
def PlanView.amounts (view : PlanView) : List String :=
  view.totalAmount :: view.installments.map InstallmentView.amount

/-- The amounts of plans and installments. -/
def amountsOf (plans : List Plan) (installments : List Installment) : List Amount :=
  plans.map Plan.amount ++ installments.map Installment.amount

lemma Plan.amounts_view (plan : Plan) (installments : List Installment) :
    (plan.view installments).amounts = (amountsOf [plan] installments).map Amount.text := by
  simp [PlanView.amounts, amountsOf, Plan.view, Installment.view, Function.comp_def]

lemma amountsOf_concat_plan (plans : List Plan) (plan : Plan) (installments : List Installment) :
    (amountsOf (plans ++ [plan]) installments).Perm
      (plan.amount :: amountsOf plans installments) := by
  rw [amountsOf, List.map_append, List.append_assoc]
  exact List.perm_middle

lemma amountsOf_concat_installment (plans : List Plan) (installments : List Installment)
    (i : Installment) : (amountsOf plans (installments ++ [i])).Perm
      (i.amount :: amountsOf plans installments) := by
  rw [amountsOf, List.map_append, ← List.append_assoc]
  exact List.perm_append_singleton _ _

/-- What a call does to the amounts that are stored if it has this one to store: it stores it when
it is granted, and nothing when it is refused, which it is for other reasons than the amount. -/
def Stores {c : Call} (amount : Amount) (before after : List Amount) : Answer c → Prop
  | .ok _ => after.Perm (amount :: before)
  | .error e => (∀ text fault, e ≠ .badAmount text fault) ∧ after = before

/-- The amounts that are stored in memory. -/
def Memory.State.amounts (s : Memory.State) : List Amount := amountsOf s.plans s.installments

/-- The amounts that are stored in the tables. -/
def Relational.Tables.amounts (t : Relational.Tables) : List Amount :=
  amountsOf t.plans t.installments

lemma Memory.Effect.stores {sources : Sources} {s s' : State} {c : Call} {reply : Answer c}
    {text : String} {amount : Amount} (h : Effect sources s c reply s')
    (hc : c.amount? = some text) (hread : Amount.ofText text = .ok amount) :
    Stores amount s.amounts s'.amounts reply := by
  cases h with
  | badAmount stores unread =>
    obtain rfl := Option.some.inj (stores.symm.trans hc)
    exact nomatch unread.symm.trans hread
  | noIdentifier | duplicate => exact ⟨nofun, rfl⟩
  | planStored read chosen free fulfils =>
    obtain rfl := Option.some.inj hc
    obtain rfl := Except.ok.inj (read.symm.trans hread)
    rw [fulfils]
    exact amountsOf_concat_plan _ _ _
  | installmentStored read drawn fulfils =>
    obtain rfl := Option.some.inj hc
    obtain rfl := Except.ok.inj (read.symm.trans hread)
    rw [fulfils]
    exact amountsOf_concat_installment _ _ _
  | plansListed | noPlans | scheduleListed | noSchedule => exact nomatch hc

/-- An installment of an unknown plan is refused, and so is one whose identifier is taken. -/
lemma Relational.answer_createInstallment_of_refused {defaults : Defaults} {t : Tables}
    {new : NewInstallment} {amount : Amount} (hread : Amount.ofText new.amount = .ok amount)
    (hrefused : defaults.identifier t.drawn ∈ t.installments.map Installment.id ∨
      new.planId ∉ t.plans.map Plan.id) :
    Tables.answer defaults (.createInstallment new) t =
      (.error (failed "insert_payment_installment"
          ("failed to insert installment for payment plan " ++ new.planId.text)),
        { t with drawn := t.drawn + 1, ticks := t.ticks + 1 }) := by
  by_cases htaken : defaults.identifier t.drawn ∈ t.installments.map Installment.id
  · simp [Tables.answer, Tables.run, respond, createInstallment, readAmount_eq_ok hread, Sql.send,
      Program.run, Tables.insertInstallment, htaken, Sql.Reply.one?]
  · have hunknown := hrefused.resolve_left htaken
    simp [Tables.answer, Tables.run, respond, createInstallment, readAmount_eq_ok hread, Sql.send,
      Program.run, Tables.insertInstallment, htaken, hunknown, Sql.Reply.one?]

lemma Relational.answer_stores {defaults : Defaults} {t : Tables} {c : Call} {text : String}
    {amount : Amount} (hc : c.amount? = some text) (hread : Amount.ofText text = .ok amount) :
    let reply := Tables.answer defaults c t
    Stores amount t.amounts reply.2.amounts reply.1 := by
  cases c with
  | createPlan new =>
    obtain rfl := Option.some.inj hc
    rw [answer_createPlan hread]
    dsimp only
    split
    · exact ⟨nofun, rfl⟩
    · exact amountsOf_concat_plan _ _ _
  | createInstallment new =>
    obtain rfl := Option.some.inj hc
    by_cases hrefused : defaults.identifier t.drawn ∈ t.installments.map Installment.id ∨
        new.planId ∉ t.plans.map Plan.id
    · rw [answer_createInstallment_of_refused hread hrefused]
      exact ⟨nofun, rfl⟩
    · obtain ⟨hfresh, hplan⟩ := not_or.1 hrefused
      rw [answer_createInstallment hread hfresh (not_not.1 hplan)]
      exact amountsOf_concat_installment _ _ _
  | listPlans | listInstallments => exact nomatch hc

/-- **What is written for an amount is read as that amount**, with its sign, its digits and its
places, unless it is a zero with a sign; and the canonical texts are those that are shown as they
were typed.  So no two amounts are written alike, and an amount that is read in a view and
submitted again is stored as it was, in memory as in a database. -/
theorem amounts_roundTrip :
    (∀ a : Amount, Amount.ofText a.text = .ok a ↔ ¬ a.IsNegativeZero) ∧
      (∀ text, Amount.IsCanonical text ↔ ∃ a, Amount.ofText text = .ok a ∧ a.text = text) ∧
      Function.Injective Amount.text ∧
      ∀ (plan : Plan) (installments : List Installment),
        ∀ shown ∈ (plan.view installments).amounts,
          ∃ a ∈ amountsOf [plan] installments, a.text = shown ∧
            (¬ a.IsNegativeZero → ∀ c : Call, c.amount? = some shown →
              (∀ sources (s : Memory.State), let reply := s.answer sources c
                Stores a s.amounts reply.2.amounts reply.1) ∧
              ∀ defaults (t : Relational.Tables), let reply := t.answer defaults c
                Stores a t.amounts reply.2.amounts reply.1) := by
  refine ⟨Amount.ofText_text_eq_self_iff, Amount.isCanonical_iff, Amount.text_injective, ?_⟩
  intro plan installments shown hshown
  rw [plan.amounts_view] at hshown
  obtain ⟨a, ha, rfl⟩ := List.mem_map.1 hshown
  refine ⟨a, ha, rfl, fun hsign c hc => ?_⟩
  have hread := (Amount.ofText_text_eq_self_iff a).2 hsign
  exact ⟨fun sources s => (Memory.effect sources c s).stores hc hread,
    fun defaults t => Relational.answer_stores hc hread⟩

end PaymentPlans
