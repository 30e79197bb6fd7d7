/-
# What a creation tells about its progress

A creation is run against a repository that may answer anything.  It asks for the plan, and then
for one installment after the other, the earliest due first, until one is refused; it asks for
nothing else.  What it ends with tells how far it got: the error of a refused installment names
the plan that the repository gave back and counts the installments that it accepted.  Some of the
calls may be intercepted, for to the creation it is all the same from where its answers come.
-/
import PaymentPlans.Instant.Kept
import PaymentPlans.Proofs.Schedule
import PaymentPlans.Repository.Interception

namespace PaymentPlans

/-- A text is the first amount of a request that cannot be read, in the order of the request and
the whole amount first. -/
def PlanRequest.FirstBad (request : PlanRequest) (text : String) (fault : Amount.Fault) : Prop :=
  request.amounts.find? (fun text => !(Amount.ofText text).isOk) = some text ∧
    Amount.ofText text = .error fault

namespace Service

open Program (Exchange run exchanges exchanges_bind run_bind done_bind bind_eq_bind)
open Repository

variable {σ : Type} (answer : (c : Call) → σ → Answer c × σ)

/-- The exchanges in which a repository accepts installments of a plan. -/
def accepted (planId : Identifier) (requests : List InstallmentRequest)
    (installments : List Installment) : List (Exchange Answer) :=
  List.zipWith (fun request installment =>
    ⟨.createInstallment (request.newInstallment planId), .ok installment⟩) requests installments

/-! ## The installments -/

variable {answer} in
lemma run_createInstallments_cons {planId : Identifier} {next : InstallmentRequest}
    {installment : Installment} {s s' : σ}
    (h : answer (.createInstallment (next.newInstallment planId)) s = (.ok installment, s'))
    (requested : Nat) (created : List Installment) (rest : List InstallmentRequest) :
    (createInstallments planId requested created (next :: rest)).run answer s =
      (createInstallments planId requested (created ++ [installment]) rest).run answer s' := by
  simp [createInstallments, createInstallment, run, h]

/-- How an attempt to store installments goes: either all are accepted, or the first that is not
ends it. -/
lemma createInstallments_exchanges (planId : Identifier) (requested : Nat)
    (created : List Installment) (rest : List InstallmentRequest) (s : σ) :
    let p := createInstallments planId requested created rest
    (∃ installments, installments.length = rest.length ∧
      p.exchanges answer s = accepted planId rest installments ∧
      (p.run answer s).value = .ok (created ++ installments)) ∨
    (∃ installments next later e, rest = rest.take installments.length ++ next :: later ∧
      installments.length < rest.length ∧
      p.exchanges answer s = accepted planId rest installments ++
        [⟨.createInstallment (next.newInstallment planId), .error e⟩] ∧
      (p.run answer s).value =
        .error (installmentRefused planId (created.length + installments.length) requested e)) := by
  induction rest generalizing created s with
  | nil => exact Or.inl ⟨[], rfl, rfl, by simp [createInstallments, run]⟩
  | cons next rest ih =>
    rcases hanswer : answer (.createInstallment (next.newInstallment planId)) s with ⟨reply, s'⟩
    cases reply with
    | error e =>
      -- The first refusal: none of these installments is accepted.
      refine Or.inr ⟨[], next, rest, e, rfl, by simp, ?_, ?_⟩
      · simp [createInstallments, createInstallment, exchanges, hanswer, accepted]
      · simp [createInstallments, createInstallment, run, hanswer]
    | ok installment =>
      -- One more is accepted, and the rest goes as it goes.
      have hexchanges : (createInstallments planId requested created (next :: rest)).exchanges
          answer s = ⟨.createInstallment (next.newInstallment planId), .ok installment⟩ ::
            (createInstallments planId requested (created ++ [installment]) rest).exchanges
              answer s' := by
        simp [createInstallments, createInstallment, exchanges, hanswer]
      have hrun := run_createInstallments_cons hanswer requested created rest
      rcases ih (created ++ [installment]) s' with ⟨is, hlength, hex, hval⟩ |
        ⟨is, refused, later, e, hrest, hlength, hex, hval⟩
      · refine Or.inl ⟨installment :: is, by simp [hlength], ?_, ?_⟩
        · rw [hexchanges, hex]
          rfl
        · rw [hrun, hval, List.append_assoc]
          rfl
      · refine Or.inr ⟨installment :: is, refused, later, e, ?_, by simpa using hlength, ?_, ?_⟩
        · simpa using hrest
        · rw [hexchanges, hex]
          rfl
        · rw [hrun, hval]
          simp [Nat.add_comm, Nat.add_left_comm]

/-! ## The amounts -/

lemma checkAmount_eq_ok_iff (text : String) :
    checkAmount text = .ok () ↔ (Amount.ofText text).isOk := by
  unfold checkAmount readAmount
  cases Amount.ofText text <;> simp [Except.mapError, Except.isOk, Except.toBool]

/-- A request passes the check exactly when all of its amounts can be read. -/
lemma checkAmounts_eq_ok_iff (request : PlanRequest) :
    checkAmounts request = .ok () ↔ ∀ text ∈ request.amounts, (Amount.ofText text).isOk := by
  unfold checkAmounts
  induction request.amounts with
  | nil => simp [pure, Except.pure]
  | cons text texts ih =>
    rw [List.forall_mem_cons, ← ih, ← checkAmount_eq_ok_iff, List.forM_eq_forM, List.forM_cons]
    rcases checkAmount text with e | ⟨⟩
    · simp [bind, Except.bind]
    · simp [bind, Except.bind]

/-- The check fails with the first text that is no amount. -/
lemma checkAmounts_eq_error_iff {request : PlanRequest} {e : ServiceError} :
    checkAmounts request = .error e ↔
      ∃ text fault, request.FirstBad text fault ∧ e = .badAmount text (.badAmount text fault) := by
  unfold checkAmounts PlanRequest.FirstBad
  induction request.amounts with
  | nil => simp [pure, Except.pure]
  | cons text texts ih =>
    rw [List.forM_eq_forM, List.forM_cons, List.find?_cons]
    cases hread : Amount.ofText text with
    | error fault =>
      have hcheck : checkAmount text = .error (.badAmount text (.badAmount text fault)) := by
        rw [checkAmount, readAmount_eq_error hread]
      rw [hcheck]
      simp only [bind, Except.bind, Except.error.injEq, Except.isOk, Except.toBool, Bool.not_false,
        Option.some.injEq]
      constructor
      · rintro rfl
        exact ⟨text, fault, ⟨rfl, hread⟩, rfl⟩
      · rintro ⟨_, other, ⟨rfl, hother⟩, rfl⟩
        rw [Except.error.inj (hread.symm.trans hother)]
    | ok amount =>
      rw [(checkAmount_eq_ok_iff text).2 (by rw [hread]; rfl)]
      exact ih

/-! ## The whole creation -/

/-- What a creation asks a repository for, with the answers, and what it ends with. -/
inductive Reported (request : PlanRequest) (ordered : List InstallmentRequest) :
    List (Exchange Answer) → Except ServiceError PlanView → Prop where
  /-- The plan is refused, and nothing else is asked for. -/
  | refused (e : RepositoryError) (error : ServiceError)
      (cause : (∃ reason, e = .noIdentifier reason ∧ error = .noIdentifier none 0 e) ∨
        (∃ text fault, e = .badAmount text fault ∧ error = .badAmount text e) ∨
        ((∀ reason, e ≠ .noIdentifier reason) ∧ (∀ text fault, e ≠ .badAmount text fault) ∧
          error = .planNotCreated request.userId e)) :
      Reported request ordered
        [⟨.createPlan ⟨request.id, request.userId, request.currency, request.totalAmount, .pending⟩,
          .error e⟩]
        (.error error)
  /-- The plan is stored, and so are some installments, but not the next one. -/
  | cut (plan : Plan) (installments : List Installment) (e : RepositoryError)
      (error : ServiceError) (next : InstallmentRequest) (later : List InstallmentRequest)
      (split : ordered = ordered.take installments.length ++ next :: later)
      (few : installments.length < ordered.length)
      (cause : (∃ reason, e = .noIdentifier reason ∧
          error = .noIdentifier (some plan.id) installments.length e) ∨
        ((∀ reason, e ≠ .noIdentifier reason) ∧ error = .installmentNotCreated plan.id
          installments.length request.installments.length e)) :
      Reported request ordered
        (⟨.createPlan ⟨request.id, request.userId, request.currency, request.totalAmount, .pending⟩,
          .ok plan⟩ :: accepted plan.id ordered installments ++
            [⟨.createInstallment ⟨plan.id, next.currency, next.amount, next.dueAt, .pending⟩,
              .error e⟩])
        (.error error)
  /-- Everything is stored. -/
  | whole (plan : Plan) (installments : List Installment)
      (all : installments.length = ordered.length) :
      Reported request ordered
        (⟨.createPlan ⟨request.id, request.userId, request.currency, request.totalAmount, .pending⟩,
          .ok plan⟩ :: accepted plan.id ordered installments)
        (.ok (plan.view installments))

lemma planRefused_cause (userId : Identifier) (e : RepositoryError) :
    (∃ reason, e = .noIdentifier reason ∧ planRefused userId e = .noIdentifier none 0 e) ∨
      (∃ text fault, e = .badAmount text fault ∧ planRefused userId e = .badAmount text e) ∨
      ((∀ reason, e ≠ .noIdentifier reason) ∧ (∀ text fault, e ≠ .badAmount text fault) ∧
        planRefused userId e = .planNotCreated userId e) := by
  cases e <;> simp [planRefused]

lemma installmentRefused_cause (planId : Identifier) (persisted requested : Nat)
    (e : RepositoryError) :
    (∃ reason, e = .noIdentifier reason ∧
        installmentRefused planId persisted requested e = .noIdentifier (some planId) persisted e) ∨
      ((∀ reason, e ≠ .noIdentifier reason) ∧ installmentRefused planId persisted requested e =
        .installmentNotCreated planId persisted requested e) := by
  cases e <;> simp [installmentRefused]

/-- How a creation ends once it is known which installments of its plan are stored. -/
def conclude (userId : Identifier) (plan : Plan) :
    Except ServiceError (List Installment) → RepositoryProgram (Except ServiceError PlanView)
  | .error e => .done (.error e)
  | .ok installments =>
    .note (.planCreated plan.id userId installments.length) (.done (.ok (plan.view installments)))

lemma run_conclude_state (userId : Identifier) (plan : Plan)
    (ended : Except ServiceError (List Installment)) (s : σ) :
    ((conclude userId plan ended).run answer s).state = s := by
  cases ended <;> rfl

/-- How a creation goes on with the answer to its first call. -/
def proceed (request : PlanRequest) :
    Except RepositoryError Plan → RepositoryProgram (Except ServiceError PlanView)
  | .error e => .done (.error (planRefused request.userId e))
  | .ok plan =>
    (createInstallments plan.id request.installments.length [] request.schedule).bind
      (conclude request.userId plan)

lemma create_eq_call {request : PlanRequest}
    (h : ∀ text ∈ request.amounts, (Amount.ofText text).isOk) :
    create request = .call (.createPlan request.newPlan) (proceed request) := by
  unfold create
  rw [(checkAmounts_eq_ok_iff request).2 h]
  refine congrArg (Program.call _) (funext fun reply => ?_)
  cases reply with
  | error e => rfl
  | ok plan =>
    simp only [proceed, done_bind, bind_eq_bind, PlanRequest.length_schedule]
    refine congrArg (Program.bind _) (funext fun ended => ?_)
    cases ended <;> rfl

/-- Once its plan is stored, a creation goes on with the installments. -/
lemma run_create_of_stored {answer : (c : Call) → σ → Answer c × σ} {request : PlanRequest}
    {plan : Plan} {s s' : σ} (h : ∀ text ∈ request.amounts, (Amount.ofText text).isOk)
    (hplan : answer (.createPlan request.newPlan) s = (.ok plan, s')) :
    (create request).run answer s =
      ((createInstallments plan.id request.installments.length [] request.schedule).bind
        (conclude request.userId plan)).run answer s' := by
  rw [create_eq_call h, run, hplan, proceed]

lemma create_reported {request : PlanRequest}
    (h : ∀ text ∈ request.amounts, (Amount.ofText text).isOk) (s : σ) :
    Reported request request.schedule ((create request).exchanges answer s)
      ((create request).run answer s).value := by
  rw [create_eq_call h, exchanges, run]
  rcases answer (.createPlan request.newPlan) s with ⟨reply, s'⟩
  cases reply with
  | error e => exact .refused e _ (planRefused_cause _ e)
  | ok plan =>
    simp only [proceed, exchanges_bind, run_bind]
    rcases createInstallments_exchanges answer plan.id request.installments.length []
        request.schedule s' with
      ⟨is, hlength, hex, hval⟩ | ⟨is, next, later, e, hsplit, hfew, hex, hval⟩
    · rw [hex, hval, conclude, exchanges, exchanges, List.append_nil]
      exact .whole plan is hlength
    · rw [hex, hval, conclude, exchanges, List.append_nil, List.length_nil, Nat.zero_add]
      exact .cut plan is e _ next later hsplit hfew (installmentRefused_cause _ _ _ e)

/-- A creation some of whose calls are intercepted tells how far it got by the answers that it had,
from wherever they came. -/
lemma create_reported_of_intercepted {request : PlanRequest}
    (h : ∀ text ∈ request.amounts, (Amount.ofText text).isOk) (interceptions : List Interception)
    (turns : Turns) (s : σ) :
    Reported request request.schedule
      ((create request).exchanges (intercepting interceptions answer) (s, turns))
      ((intercept interceptions turns (create request)).run answer s).value.1 := by
  rw [run_intercept]
  exact create_reported _ h _

lemma length_accepted (planId : Identifier) {requests : List InstallmentRequest}
    {installments : List Installment} (h : installments.length = requests.length) :
    (accepted planId requests installments).length = requests.length := by
  simp [accepted, h]

lemma exists_of_mem_accepted {planId : Identifier} {requests : List InstallmentRequest}
    {installments : List Installment} {x : Exchange Answer}
    (hx : x ∈ accepted planId requests installments) :
    ∃ asked ∈ requests, ∃ installment,
      x = ⟨.createInstallment (asked.newInstallment planId), .ok installment⟩ := by
  rw [accepted, ← List.map_uncurry_zip_eq_zipWith] at hx
  obtain ⟨⟨asked, installment⟩, hpair, rfl⟩ := List.mem_map.1 hx
  exact ⟨asked, (List.of_mem_zip hpair).1, installment, rfl⟩

lemma Reported.eq_ok_iff {request : PlanRequest} {ordered : List InstallmentRequest}
    {exchanges : List (Exchange Answer)} {value : Except ServiceError PlanView}
    (h : Reported request ordered exchanges value) :
    (∃ view, value = .ok view) ↔
      exchanges.length = ordered.length + 1 ∧ ∀ x ∈ exchanges, x.2.isOk := by
  cases h with
  | refused e error cause =>
    constructor
    · rintro ⟨_, hview⟩
      cases hview
    · rintro ⟨_, hok⟩
      exact absurd (hok _ List.mem_cons_self) (by simp [Except.isOk, Except.toBool])
  | cut plan installments e error next later split few cause =>
    constructor
    · rintro ⟨_, hview⟩
      cases hview
    · rintro ⟨_, hok⟩
      exact absurd (hok _ List.mem_concat_self) (by simp [Except.isOk, Except.toBool])
  | whole plan installments all =>
    refine ⟨fun _ => ⟨?_, ?_⟩, fun _ => ⟨_, rfl⟩⟩
    · rw [List.length_cons, length_accepted plan.id all]
    · intro x hx
      rcases List.mem_cons.1 hx with rfl | hx
      · rfl
      · obtain ⟨_, _, _, rfl⟩ := exists_of_mem_accepted hx
        rfl

/-- Whatever a creation asks for, it asks to store one of the amounts of its request. -/
lemma Reported.exists_amount {request : PlanRequest} {exchanges : List (Exchange Answer)}
    {value : Except ServiceError PlanView}
    (h : Reported request request.schedule exchanges value) :
    ∀ x ∈ exchanges, ∃ text ∈ request.amounts, x.1.amount? = some text := by
  have hplan := request.totalAmount_mem_amounts
  have haccepted : ∀ planId installments,
      ∀ x ∈ accepted planId request.schedule installments,
        ∃ text ∈ request.amounts, x.1.amount? = some text := by
    intro planId installments x hx
    obtain ⟨asked, hasked, _, rfl⟩ := exists_of_mem_accepted hx
    exact ⟨asked.amount, request.amount_mem_amounts hasked, rfl⟩
  intro x hx
  cases h with
  | refused e error cause =>
    obtain rfl := List.mem_singleton.1 hx
    exact ⟨_, hplan, rfl⟩
  | cut plan installments e error next later split few cause =>
    rcases List.mem_append.1 hx with hx | hx
    · rcases List.mem_cons.1 hx with rfl | hx
      · exact ⟨_, hplan, rfl⟩
      · exact haccepted _ _ x hx
    · obtain rfl := List.mem_singleton.1 hx
      have hnext : next ∈ request.schedule := by
        rw [split]
        exact List.mem_append_right _ List.mem_cons_self
      exact ⟨_, request.amount_mem_amounts hnext, rfl⟩
  | whole plan installments all =>
    rcases List.mem_cons.1 hx with rfl | hx
    · exact ⟨_, hplan, rfl⟩
    · exact haccepted _ _ x hx

/-- **A creation tells exactly how far it got**, whatever the repository answers: it asks for the
plan, then for the installments in a stable order by due date, up to the first refusal, and its
error counts those that are stored.  It succeeds exactly when nothing is refused. -/
theorem create_tells_progress {request : PlanRequest}
    (h : ∀ text ∈ request.amounts, (Amount.ofText text).isOk) (s : σ) :
    ∃ ordered, IsStableByDue request.installments ordered ∧
      Reported request ordered ((create request).exchanges answer s)
        ((create request).run answer s).value ∧
      ((∃ view, ((create request).run answer s).value = .ok view) ↔
        ((create request).exchanges answer s).length = request.installments.length + 1 ∧
          ∀ x ∈ (create request).exchanges answer s, x.2.isOk) := by
  have hreported := create_reported answer h s
  refine ⟨request.schedule, request.schedule_isStableByDue, hreported, ?_⟩
  rw [hreported.eq_ok_iff, PlanRequest.length_schedule]

/-- A repository that accepts a plan and one installment, and then nothing. -/
def acceptingTwice : (c : Call) → Nat → Answer c × Nat
  | .createPlan new, n =>
    (.ok ⟨.sequence 7, new.userId, new.currency, ⟨false, .zero⟩, new.status, .epoch, .epoch⟩, n + 1)
  | .createInstallment new, 1 =>
    (.ok ⟨.sequence 8, new.planId, new.currency, ⟨false, .zero⟩, new.dueAt, new.status, .epoch,
      .epoch⟩, 2)
  | _, n => (.error (.queryFailed "insert" []), n + 1)

theorem create_tells_progress_acceptingTwice :
    let request : PlanRequest := ⟨none, .sequence 1, "usdc", "30.00",
      [⟨"20.00", "usdc", .latest⟩, ⟨"10.00", "usdc", .epoch⟩]⟩
    (∀ text ∈ request.amounts, (Amount.ofText text).isOk) ∧
      ∃ ordered, IsStableByDue request.installments ordered ∧
        Reported request ordered ((create request).exchanges acceptingTwice 0)
          ((create request).run acceptingTwice 0).value ∧
        ((∃ view, ((create request).run acceptingTwice 0).value = .ok view) ↔
          ((create request).exchanges acceptingTwice 0).length = request.installments.length + 1 ∧
            ∀ x ∈ (create request).exchanges acceptingTwice 0, x.2.isOk) :=
  ⟨by decide +kernel, create_tells_progress acceptingTwice (by decide +kernel) 0⟩

end Service

end PaymentPlans
