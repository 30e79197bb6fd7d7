/-
# Bad amounts

A creation checks all amounts before it asks a repository for anything, so a request with a bad
amount leaves no trace.  The repositories check amounts once more, each one before it does
anything with it; after the first check the second one never fails, and so a creation tells of a
bad amount only when it has done nothing.
-/
import PaymentPlans.Proofs.Creation
import PaymentPlans.Proofs.Memory.Effect
import PaymentPlans.Relational.Repository

namespace PaymentPlans

namespace Program

variable {Call Call' : Type} {Answer : Call → Type} {Answer' : Call' → Type} {Note α σ : Type}

/-- Answers a call by a run of the program that takes its place. -/
def answerBy (step : (c : Call) → Program Call' Answer' Note (Answer c))
    (answer : (c : Call') → σ → Answer' c × σ) (c : Call) (s : σ) : Answer c × σ :=
  (((step c).run answer s).value, ((step c).run answer s).state)

/-- The answers that a program is given are answers to its calls. -/
lemma exists_answer_of_mem_exchanges {answer : (c : Call) → σ → Answer c × σ}
    {p : Program Call Answer Note α} {s : σ} {x : Exchange Answer}
    (hx : x ∈ p.exchanges answer s) : ∃ s', x.2 = (answer x.1 s').1 := by
  induction p generalizing s with
  | done a => exact absurd hx List.not_mem_nil
  | call c next ih =>
    rcases List.mem_cons.1 hx with rfl | hx
    · exact ⟨s, rfl⟩
    · exact ih _ hx
  | note n next ih => exact ih hx

end Program

open Program (Exchange)
open Repository (Call Answer)

/-! ## Repositories -/

/-- A repository never refuses an amount that can be read. -/
def Repository.AcceptsAmounts {σ : Type} (answer : (c : Call) → σ → Answer c × σ) : Prop :=
  ∀ c s text, c.amount? = some text → (Amount.ofText text).isOk →
    ∀ other fault, (answer c s).1 ≠ .error (.badAmount other fault)

lemma Memory.acceptsAmounts (sources : Sources) :
    Repository.AcceptsAmounts (Memory.State.answer sources) := by
  intro c s text hstores hread other fault hrefused
  rcases hanswer : Memory.State.answer sources c s with ⟨a, s'⟩
  rw [hanswer] at hrefused
  cases Memory.effect_of_answer_eq hanswer with
  | badAmount stores unread =>
    obtain rfl := Option.some.inj (stores.symm.trans hstores)
    rw [unread] at hread
    exact nomatch hread
  | _ => exact nomatch hrefused

namespace Relational

/-- A row is never refused for an amount: what is wrong with a row is its status. -/
lemma plan_ne_badAmount (shape : Shape) (row : PlanRow) (text : String) (fault : Amount.Fault) :
    row.plan shape ≠ .error (.badAmount text fault) := by
  unfold PlanRow.plan
  split <;> exact nofun

lemma installment_ne_badAmount (shape : Shape) (row : InstallmentRow) (text : String)
    (fault : Amount.Fault) : row.installment shape ≠ .error (.badAmount text fault) := by
  unfold InstallmentRow.installment
  split <;> exact nofun

/-- Whatever a database replies to the statements, no amount is refused that can be read. -/
lemma acceptsAmounts {σ : Type} (answer : (q : Sql.Statement) → σ → q.Answer × σ) :
    Repository.AcceptsAmounts (Program.answerBy respond answer) := by
  intro c s text hstores hread other fault
  obtain ⟨amount, hamount⟩ := exists_amount hread
  cases c with
  | createPlan new =>
    obtain rfl : new.amount = text := Option.some.inj hstores
    simp only [Program.answerBy, respond, createPlan, readAmount_eq_ok hamount, Sql.send,
      Program.bind_eq_bind, Program.ask_bind, Program.run]
    cases Sql.Reply.one? PlanRow.decode? (answer _ s).1 with
    | none => exact fun hrefused => by cases hrefused
    | some row => exact plan_ne_badAmount .created row other fault
  | createInstallment new =>
    obtain rfl : new.amount = text := Option.some.inj hstores
    simp only [Program.answerBy, respond, createInstallment, readAmount_eq_ok hamount, Sql.send,
      Program.bind_eq_bind, Program.ask_bind, Program.run]
    cases Sql.Reply.one? InstallmentRow.decode? (answer _ s).1 with
    | none => exact fun hrefused => by cases hrefused
    | some row => exact installment_ne_badAmount .created row other fault
  | listPlans | listInstallments => cases hstores

end Relational

/-! ## Creations -/

namespace Service

variable {request : PlanRequest} {σ : Type} {answer : (c : Call) → σ → Answer c × σ}

/-- A request with a bad amount is refused at once. -/
lemma create_of_firstBad {text : String} {fault : Amount.Fault} (h : request.FirstBad text fault) :
    create request = .done (.error (.badAmount text (.badAmount text fault))) := by
  have hcheck := checkAmounts_eq_error_iff.2 ⟨text, fault, h, rfl⟩
  simp only [create, hcheck]
  rfl

lemma exists_firstBad_iff : (∃ text fault, request.FirstBad text fault) ↔
    ∃ text ∈ request.amounts, ¬ (Amount.ofText text).isOk := by
  constructor
  · rintro ⟨text, fault, hfind, hbad⟩
    refine ⟨text, List.mem_of_find?_eq_some hfind, ?_⟩
    rw [hbad]
    exact nofun
  · intro hbad
    cases hcheck : checkAmounts request with
    | error e =>
      obtain ⟨text, fault, hfirst, -⟩ := checkAmounts_eq_error_iff.1 hcheck
      exact ⟨text, fault, hfirst⟩
    | ok _ =>
      obtain ⟨text, htext, hbad⟩ := hbad
      exact absurd ((checkAmounts_eq_ok_iff request).1 hcheck text htext) hbad

/-- After the first check a repository refuses no amount any more. -/
lemma exchanges_ne_badAmount (hanswer : Repository.AcceptsAmounts answer)
    (hamounts : ∀ text ∈ request.amounts, (Amount.ofText text).isOk) (s : σ) :
    ∀ x ∈ (create request).exchanges answer s, ∀ text fault,
      x.2 ≠ .error (.badAmount text fault) := by
  intro x hx
  obtain ⟨s', hs'⟩ := Program.exists_answer_of_mem_exchanges hx
  obtain ⟨text, htext, hstores⟩ := (create_reported answer hamounts s).exists_amount x hx
  rw [hs']
  exact hanswer x.1 s' text hstores (hamounts text htext)

/-- A creation that was told of no bad amount tells of none, neither by itself nor behind an
installment. -/
lemma Reported.ne_badAmount {ordered : List InstallmentRequest}
    {exchanges : List (Exchange Answer)} {value : Except ServiceError PlanView}
    (h : Reported request ordered exchanges value)
    (hanswers : ∀ x ∈ exchanges, ∀ text fault, x.2 ≠ .error (.badAmount text fault)) :
    (∀ text source, value ≠ .error (.badAmount text source)) ∧
      ∀ planId persisted requested text fault,
        value ≠ .error (.installmentNotCreated planId persisted requested
          (.badAmount text fault)) := by
  cases h with
  | refused e error cause =>
    rcases cause with ⟨_, rfl, rfl⟩ | ⟨text, fault, rfl, rfl⟩ | ⟨-, -, rfl⟩
    · exact ⟨nofun, nofun⟩
    · exact absurd rfl (hanswers _ List.mem_cons_self text fault)
    · exact ⟨nofun, nofun⟩
  | cut plan installments e error next later split few cause =>
    have hlast := hanswers _ List.mem_concat_self
    rcases cause with ⟨_, rfl, rfl⟩ | ⟨-, rfl⟩
    · exact ⟨nofun, nofun⟩
    · refine ⟨nofun, fun planId persisted requested text fault hwrapped => ?_⟩
      cases hwrapped
      exact hlast text fault rfl
  | whole plan installments all => exact ⟨nofun, nofun⟩

/-- How a creation tells of a bad amount, when each call is answered by a program of smaller
steps. -/
structure TellsFirst {Step : Type} {Reply : Step → Type} {σ : Type} (request : PlanRequest)
    (respond : (c : Call) → Program Step Reply Event (Answer c))
    (reply : (step : Step) → σ → Reply step × σ) (s : σ) : Prop where
  /-- It tells of the first one of the request, if there is one. -/
  told : ∀ text source,
    (((create request).refine respond).run reply s).value = .error (.badAmount text source) ↔
      ∃ fault, request.FirstBad text fault ∧ source = .badAmount text fault
  /-- When it tells of one, not a single step was taken. -/
  first : ∀ text source,
    (((create request).refine respond).run reply s).value = .error (.badAmount text source) →
      ((create request).refine respond).exchanges reply s = []
  /-- No call is refused for a bad amount. -/
  checked : ∀ x ∈ (create request).exchanges (Program.answerBy respond reply) s,
    ∀ text fault, x.2 ≠ .error (.badAmount text fault)
  /-- No installment is refused for a bad amount. -/
  unwrapped : ∀ planId persisted requested text fault,
    (((create request).refine respond).run reply s).value ≠
      .error (.installmentNotCreated planId persisted requested (.badAmount text fault))

section TellsFirst

variable {Step : Type} {Reply : Step → Type}
variable {respond : (c : Call) → Program Step Reply Event (Answer c)}
variable {reply : (step : Step) → σ → Reply step × σ}

/-- A creation with a bad amount has ended before its first step. -/
lemma tellsFirst_of_firstBad {text : String} {fault : Amount.Fault}
    (h : request.FirstBad text fault) (s : σ) : TellsFirst request respond reply s := by
  have hcreate := create_of_firstBad h
  constructor
  · intro other source
    rw [hcreate]
    constructor
    · rintro ⟨⟩
      exact ⟨fault, h, rfl⟩
    · rintro ⟨fault', h', rfl⟩
      -- There is but one first bad amount.
      obtain rfl := Option.some.inj (h.1.symm.trans h'.1)
      obtain rfl := Except.error.inj (h.2.symm.trans h'.2)
      rfl
  · intro _ _ _
    rw [hcreate]
    rfl
  · rw [hcreate]
    exact fun x hx => absurd hx List.not_mem_nil
  · rw [hcreate]
    exact nofun

/-- Without a bad amount a creation never tells of one. -/
lemma tellsFirst_of_readable (haccepts : Repository.AcceptsAmounts (Program.answerBy respond reply))
    (hamounts : ∀ text ∈ request.amounts, (Amount.ofText text).isOk) (s : σ) :
    TellsFirst request respond reply s := by
  have hchecked := exchanges_ne_badAmount haccepts hamounts s
  obtain ⟨hplain, hwrapped⟩ :=
    (create_reported (Program.answerBy respond reply) hamounts s).ne_badAmount hchecked
  -- Whether its calls or their steps are answered, the creation ends with the same.
  have hvalue : (((create request).refine respond).run reply s).value =
      ((create request).run (Program.answerBy respond reply) s).value :=
    (Program.run_refine respond (create request) s).1
  rw [← hvalue] at hplain hwrapped
  constructor
  · intro text source
    refine ⟨fun htold => absurd htold (hplain text source), ?_⟩
    rintro ⟨fault, hfirst, -⟩
    obtain ⟨bad, hmem, hbad⟩ := exists_firstBad_iff.1 ⟨text, fault, hfirst⟩
    exact absurd (hamounts bad hmem) hbad
  · exact fun text source htold => absurd htold (hplain text source)
  · exact hchecked
  · exact hwrapped

lemma tellsFirst_of_acceptsAmounts
    (haccepts : Repository.AcceptsAmounts (Program.answerBy respond reply))
    (request : PlanRequest) (s : σ) : TellsFirst request respond reply s := by
  by_cases hbad : ∃ text ∈ request.amounts, ¬ (Amount.ofText text).isOk
  · obtain ⟨text, fault, hfirst⟩ := exists_firstBad_iff.2 hbad
    exact tellsFirst_of_firstBad hfirst s
  · have hamounts : ∀ text ∈ request.amounts, (Amount.ofText text).isOk := by
      simpa using hbad
    exact tellsFirst_of_readable haccepts hamounts s

end TellsFirst

/-- **A bad amount never leaves a trace.**  If an amount of a request cannot be read, a creation
tells of the first one, and it asks nothing of any repository and reports nothing.  A store in
memory and a database, whatever identifiers are drawn and whatever the database replies, add
nothing to that: there a creation tells of a bad amount only if there is one, before a single
section is executed or a single statement is sent. -/
theorem badAmount_leaves_no_trace (request : PlanRequest) :
    ((∃ text ∈ request.amounts, ¬ (Amount.ofText text).isOk) →
      ∃ text fault, request.FirstBad text fault ∧
        ∀ (σ : Type) (answer : (c : Call) → σ → Answer c × σ) (s : σ),
          (create request).exchanges answer s = [] ∧
          (create request).run answer s =
            ⟨.error (.badAmount text (.badAmount text fault)), s, []⟩) ∧
    (∀ (sources : Sources) (s : Memory.State),
      TellsFirst request Memory.respond (fun c s => s.execute sources c) s) ∧
    (∀ (σ : Type) (reply : (q : Sql.Statement) → σ → q.Answer × σ) (s : σ),
      TellsFirst request Relational.respond reply s) := by
  refine ⟨fun hbad => ?_, fun sources s => ?_, fun σ reply s => ?_⟩
  · obtain ⟨text, fault, hfirst⟩ := exists_firstBad_iff.2 hbad
    refine ⟨text, fault, hfirst, fun σ answer s => ?_⟩
    rw [create_of_firstBad hfirst]
    exact ⟨rfl, rfl⟩
  · exact tellsFirst_of_acceptsAmounts (Memory.acceptsAmounts sources) request s
  · exact tellsFirst_of_acceptsAmounts (Relational.acceptsAmounts reply) request s

/-- A request with two bad amounts, the second one of an installment that is due before all
others. -/
def twiceBad : PlanRequest :=
  ⟨none, .sequence 1, "usdc", "30",
    [⟨"10", "usdc", .latest⟩, ⟨"ten", "usdc", .latest⟩, ⟨"12,50", "usdc", .epoch⟩]⟩

theorem badAmount_leaves_no_trace_twiceBad :
    (∃ text ∈ twiceBad.amounts, ¬ (Amount.ofText text).isOk) ∧
      ∃ fault, twiceBad.FirstBad "ten" fault ∧
        ∀ (σ : Type) (answer : (c : Call) → σ → Answer c × σ) (s : σ),
          (create twiceBad).exchanges answer s = [] ∧
          (create twiceBad).run answer s =
            ⟨.error (.badAmount "ten" (.badAmount "ten" fault)), s, []⟩ := by
  have hbad : ∃ text ∈ twiceBad.amounts, ¬ (Amount.ofText text).isOk := by decide +kernel
  obtain ⟨text, fault, hfirst, htrace⟩ := (badAmount_leaves_no_trace twiceBad).1 hbad
  have hten : twiceBad.amounts.find? (fun text => !(Amount.ofText text).isOk) = some "ten" := by
    decide +kernel
  obtain rfl := Option.some.inj (hfirst.1.symm.trans hten)
  exact ⟨hbad, fault, hfirst, htrace⟩

end Service

end PaymentPlans
