/-
# What the tables list

A listing is run against a database that may reply anything.  It gives as many entities as there are
rows, each with what the columns of its row hold, or none at all: a row that cannot be decoded is a
failure of the query, and the first row whose state is not known is told of.  No rows are no plans,
but an empty schedule is not an unknown plan, so in that case the plan is looked up.
-/
import PaymentPlans.Proofs.Relational.Rows

namespace PaymentPlans.Relational

open Program (Exchange exchanges run)
open Sql (Reply)

/-! ## Tables of any kind -/

section

variable {ρ ε : Type}

/-- What a table holds can be told by its rows. -/
structure Reads (decode : Sql.Row → Option ρ) (entity : ρ → Except RepositoryError ε)
    (cells : ρ → Sql.Row) (state : ρ → String) (IsState : String → Prop) (cellsOf : ε → Sql.Row)
    (unknown : String → RepositoryError) : Prop where
  decode_iff : ∀ c row, decode c = some row ↔ c = cells row
  entity_iff : ∀ row e, entity row = .ok e ↔ cells row = cellsOf e
  /-- Each entity has a row. -/
  row : ∀ e, ∃ row, cells row = cellsOf e
  known : ∀ row, IsState (state row) → ∃ e, entity row = .ok e
  unknown : ∀ row, ¬ IsState (state row) → entity row = .error (unknown (state row))

/-- What a listing makes of the rows that it is replied, or of a reply without such rows. -/
structure Lists (cells : ρ → Sql.Row) (state : ρ → String) (IsState : String → Prop)
    (cellsOf : ε → Sql.Row) (unknown : String → RepositoryError) (failure : RepositoryError)
    (reply : Reply) (value : Except RepositoryError (List ε)) : Prop where
  /-- The entities are the rows, one by one and column by column. -/
  ok_iff : ∀ entities, entities ≠ [] → (value = .ok entities ↔ reply = .ok (entities.map cellsOf))
  /-- There are entities exactly if each row has a state that is known. -/
  isOk_iff : ∀ rows : List ρ, rows ≠ [] → reply = .ok (rows.map cells) →
    ((∃ entities, value = .ok entities) ↔ ∀ row ∈ rows, IsState (state row))
  /-- The first row whose state is not known is told of. -/
  unknown : ∀ (before : List ρ) (row : ρ) (behind : List ρ),
    reply = .ok ((before ++ row :: behind).map cells) →
    (∀ r ∈ before, IsState (state r)) → ¬ IsState (state row) → value = .error (unknown (state row))
  /-- The statement failed, or one of its rows cannot be decoded. -/
  failed : (∀ rows : List ρ, reply ≠ .ok (rows.map cells)) → value = .error failure

variable {decode : Sql.Row → Option ρ} {entity : ρ → Except RepositoryError ε}
variable {cells : ρ → Sql.Row} {state : ρ → String} {IsState : String → Prop}
variable {cellsOf : ε → Sql.Row} {unknown : String → RepositoryError} {failure : RepositoryError}
variable {reply : Reply} {value : Except RepositoryError (List ε)}

/-- Some entities have rows. -/
lemma Reads.rows (h : Reads decode entity cells state IsState cellsOf unknown) (entities : List ε) :
    ∃ rows : List ρ, rows.map cells = entities.map cellsOf := by
  induction entities with
  | nil => exact ⟨[], rfl⟩
  | cons e entities ih =>
    obtain ⟨row, hrow⟩ := h.row e
    obtain ⟨rows, hrows⟩ := ih
    exact ⟨row :: rows, by rw [List.map_cons, List.map_cons, hrow, hrows]⟩

/-- A row has a state that is known exactly if it is taken for an entity. -/
lemma Reads.isState_iff (h : Reads decode entity cells state IsState cellsOf unknown) {row : ρ} :
    IsState (state row) ↔ ∃ e, entity row = .ok e := by
  refine ⟨h.known row, fun ⟨e, he⟩ => ?_⟩
  by_contra hstate
  exact nomatch he.symm.trans (h.unknown row hstate)

/-- A listing that decodes all rows, and then takes them for entities one after the other. -/
lemma Reads.lists (h : Reads decode entity cells state IsState cellsOf unknown)
    (hfailed : reply.all? decode = none → value = .error failure)
    (hempty : reply.all? decode = some [] → ∀ entities, entities ≠ [] → value ≠ .ok entities)
    (hrows : ∀ rows, rows ≠ [] → reply.all? decode = some rows → value = rows.mapM entity) :
    Lists cells state IsState cellsOf unknown failure reply value := by
  have hdecode : ∀ {rows}, reply.all? decode = some rows ↔ reply = .ok (rows.map cells) :=
    Reply.all?_eq_some_iff h.decode_iff
  have hvalue : ∀ {rows}, rows ≠ [] → reply = .ok (rows.map cells) → value = rows.mapM entity :=
    fun hsome hreply => hrows _ hsome (hdecode.2 hreply)
  constructor
  case ok_iff =>
    intro entities hsome
    constructor
    · intro hok
      rcases hread : reply.all? decode with _ | rows
      · exact nomatch (hfailed hread).symm.trans hok
      · have hne : rows ≠ [] := by
          rintro rfl
          exact hempty hread entities hsome hok
        rw [hrows rows hne hread, mapM_eq_ok_iff h.entity_iff] at hok
        rw [hdecode.1 hread, hok]
    · intro hreply
      obtain ⟨rows, hsame⟩ := h.rows entities
      have hne : rows ≠ [] := by
        rintro rfl
        exact hsome (List.map_eq_nil_iff.1 hsame.symm)
      rw [hvalue hne (hsame ▸ hreply), mapM_eq_ok_iff h.entity_iff, hsame]
  case isOk_iff =>
    intro rows hne hreply
    rw [hvalue hne hreply, isOk_mapM_iff]
    exact forall₂_congr fun row _ => h.isState_iff.symm
  case unknown =>
    intro before row behind hreply hbefore hrow
    rw [hvalue (by simp) hreply]
    exact mapM_eq_error (fun r hr => h.isState_iff.1 (hbefore r hr)) (h.unknown row hrow)
  case failed =>
    intro hother
    refine hfailed (Option.eq_none_iff_forall_ne_some.2 fun rows hread => ?_)
    exact hother rows (hdecode.1 hread)

end

/-! ## Both tables -/

/-- A text that names a state of a plan. -/
def IsPlanState (text : String) : Prop := ∃ status : PlanStatus, status.text = text

/-- A text that names a state of an installment. -/
def IsInstallmentState (text : String) : Prop := ∃ status : InstallmentStatus, status.text = text

/-- A row of plans whose state is not known. -/
lemma PlanRow.plan_of_not_isPlanState {shape : Shape} {row : PlanRow}
    (h : ¬ IsPlanState row.status) :
    row.plan shape =
      .error (.unsupportedRow shape.planText (PlanStatus.unknownMessage row.status)) := by
  rw [PlanRow.plan]
  split
  · next status hstatus => exact absurd ⟨status, (PlanStatus.eq_text_of_ofText? hstatus).symm⟩ h
  · rfl

lemma InstallmentRow.installment_of_not_isInstallmentState {shape : Shape} {row : InstallmentRow}
    (h : ¬ IsInstallmentState row.status) :
    row.installment shape = .error
      (.unsupportedRow shape.installmentText (InstallmentStatus.unknownMessage row.status)) := by
  rw [InstallmentRow.installment]
  split
  · next status hstatus =>
    exact absurd ⟨status, (InstallmentStatus.eq_text_of_ofText? hstatus).symm⟩ h
  · rfl

/-- The plan of a row whose state is known. -/
lemma PlanRow.exists_plan {row : PlanRow} (h : IsPlanState row.status) :
    ∃ plan, row.cells = cellsOfPlan plan := by
  obtain ⟨status, hstatus⟩ := h
  refine ⟨⟨row.id, row.userId, row.currency, row.amount, status, row.createdAt, row.updatedAt⟩, ?_⟩
  rw [PlanRow.cells, cellsOfPlan, hstatus]

lemma InstallmentRow.exists_installment {row : InstallmentRow}
    (h : IsInstallmentState row.status) : ∃ i, row.cells = cellsOfInstallment i := by
  obtain ⟨status, hstatus⟩ := h
  refine ⟨⟨row.id, row.planId, row.currency, row.amount, row.dueAt, status, row.createdAt,
    row.updatedAt⟩, ?_⟩
  rw [InstallmentRow.cells, cellsOfInstallment, hstatus]

lemma PlanRow.reads (shape : Shape) :
    Reads PlanRow.decode? (PlanRow.plan shape) PlanRow.cells PlanRow.status IsPlanState cellsOfPlan
      fun text => .unsupportedRow shape.planText (PlanStatus.unknownMessage text) where
  decode_iff _ _ := PlanRow.decode?_eq_some_iff
  entity_iff _ _ := PlanRow.plan_eq_ok_iff
  row plan := ⟨⟨plan.id, plan.userId, plan.currency, plan.amount, plan.status.text, plan.createdAt,
    plan.updatedAt⟩, rfl⟩
  known _ h := (PlanRow.exists_plan h).imp fun _ => PlanRow.plan_eq_ok_iff.2
  unknown _ := PlanRow.plan_of_not_isPlanState

lemma InstallmentRow.reads (shape : Shape) :
    Reads InstallmentRow.decode? (InstallmentRow.installment shape) InstallmentRow.cells
      InstallmentRow.status IsInstallmentState cellsOfInstallment
      fun text => .unsupportedRow shape.installmentText (InstallmentStatus.unknownMessage text) where
  decode_iff _ _ := InstallmentRow.decode?_eq_some_iff
  entity_iff _ _ := InstallmentRow.installment_eq_ok_iff
  row i := ⟨⟨i.id, i.planId, i.currency, i.amount, i.dueAt, i.status.text, i.createdAt,
    i.updatedAt⟩, rfl⟩
  known _ h :=
    (InstallmentRow.exists_installment h).imp fun _ => InstallmentRow.installment_eq_ok_iff.2
  unknown _ := InstallmentRow.installment_of_not_isInstallmentState

/-! ## Programs -/

/-- What a listing of plans makes of its rows. -/
def plansIn (userId : Identifier) : Option (List PlanRow) → Except RepositoryError (List Plan)
  | none => .error (failed "list_payment_plans_by_user_id" "failed to list payment plans by user id")
  | some [] => .error (.notFound "payment plan" userId)
  | some (row :: rows) => (row :: rows).mapM (PlanRow.plan .listed)

lemma listPlans_eq_call (userId : Identifier) :
    listPlans userId = .call (.listPlans userId) fun reply =>
      .done (plansIn userId (reply.all? PlanRow.decode?)) := by
  refine congrArg (Program.call _) (funext fun reply => ?_)
  simp only [Program.done_bind]
  rcases reply.all? PlanRow.decode? with _ | _ | ⟨row, rows⟩ <;> rfl

/-- What the question for a plan makes of the row that there may be. -/
def planIn (planId : Identifier) : Option (Option PlanRow) → Except RepositoryError Plan
  | none => .error (failed "get_payment_plan" "failed to fetch payment plan")
  | some none => .error (.notFound "payment plan" planId)
  | some (some row) => row.plan .record

lemma getPlan_eq_call (planId : Identifier) :
    getPlan planId = .call (.getPlan planId) fun found =>
      .done (planIn planId (found.atMostOne? PlanRow.decode?)) := by
  refine congrArg (Program.call _) (funext fun found => ?_)
  simp only [Program.done_bind]
  rcases found.atMostOne? PlanRow.decode? with _ | _ | row <;> rfl

/-- How a listing of installments goes on with its rows. -/
def installmentsIn (planId : Identifier) :
    Option (List InstallmentRow) → StatementProgram (Except RepositoryError (List Installment))
  | none => .done (.error (failed "list_payment_installments_by_plan_id"
      "failed to list payment installments by plan id"))
  | some [] => .call (.getPlan planId) fun found =>
      .done ((planIn planId (found.atMostOne? PlanRow.decode?)).map fun _ => [])
  | some (row :: rows) => .done ((row :: rows).mapM (InstallmentRow.installment .listed))

lemma listInstallments_eq_call (planId : Identifier) :
    listInstallments planId = .call (.listInstallments planId) fun reply =>
      installmentsIn planId (reply.all? InstallmentRow.decode?) := by
  refine congrArg (Program.call _) (funext fun reply => ?_)
  simp only [Program.done_bind]
  rcases reply.all? InstallmentRow.decode? with _ | _ | ⟨row, rows⟩
  · rfl
  · rw [installmentsIn, getPlan_eq_call]
    refine congrArg (Program.call _) (funext fun found => ?_)
    simp only [Program.done_bind]
    rcases planIn planId (found.atMostOne? PlanRow.decode?) with e | plan <;> rfl
  · rfl

/-! ## The question for a plan -/

/-- What the question for a plan is replied, and what a listing without installments ends with. -/
inductive LookedUp (planId : Identifier) :
    Reply → Except RepositoryError (List Installment) → Prop where
  /-- The first row is that of a plan: its schedule is empty. -/
  | known (plan : Plan) (rows : List Sql.Row) :
      LookedUp planId (.ok (cellsOfPlan plan :: rows)) (.ok [])
  | missing : LookedUp planId (.ok []) (.error (.notFound "payment plan" planId))
  /-- The first row is that of a plan, but for its state. -/
  | unknown (row : PlanRow) (rows : List Sql.Row) (state : ¬ IsPlanState row.status) :
      LookedUp planId (.ok (row.cells :: rows)) (.error
        (.unsupportedRow "payment plan record" (PlanStatus.unknownMessage row.status)))
  /-- The statement failed, or its first row cannot be decoded. -/
  | failed (found : Reply) (some : found ≠ .ok [])
      (other : ∀ (row : PlanRow) rows, found ≠ .ok (row.cells :: rows)) :
      LookedUp planId found
        (.error (.queryFailed "get_payment_plan" ["failed to fetch payment plan"]))

lemma lookedUp (planId : Identifier) (found : Reply) :
    LookedUp planId found
      ((planIn planId (found.atMostOne? PlanRow.decode?)).map fun _ => []) := by
  rcases found with failure | _ | ⟨cells, rows⟩
  · refine .failed _ ?_ fun _ _ => ?_ <;> rintro ⟨⟩
  · exact .missing
  rw [Reply.atMostOne?]
  rcases hrow : PlanRow.decode? cells with _ | row
  · refine .failed _ (List.cons_ne_nil _ _ <| Except.ok.inj ·) fun row others hsame => ?_
    rw [(List.cons.inj (Except.ok.inj hsame)).1, PlanRow.decode?_eq_some_iff.2 rfl] at hrow
    cases hrow
  obtain rfl := PlanRow.decode?_eq_some_iff.1 hrow
  by_cases hstate : IsPlanState row.status
  · obtain ⟨plan, hplan⟩ := PlanRow.exists_plan hstate
    rw [Option.map_some, planIn, PlanRow.plan_eq_ok_iff.2 hplan, hplan]
    exact .known plan rows
  · rw [Option.map_some, planIn, PlanRow.plan_of_not_isPlanState hstate]
    exact .unknown row rows hstate

section

variable {planId : Identifier} {found : Reply}
variable {value : Except RepositoryError (List Installment)}

lemma LookedUp.eq_nil (h : LookedUp planId found value) {installments : List Installment}
    (hok : value = .ok installments) : installments = [] := by
  cases h with
  | known => exact (Except.ok.inj hok).symm
  | missing | unknown | failed => exact nomatch hok

/-- A schedule is listed as empty exactly if its plan is there. -/
lemma LookedUp.eq_ok_iff (h : LookedUp planId found value) :
    value = .ok [] ↔ ∃ plan rows, found = .ok (cellsOfPlan plan :: rows) := by
  have hrow : ∀ plan, ∃ row : PlanRow, row.cells = cellsOfPlan plan := (PlanRow.reads .record).row
  cases h with
  | known plan rows => exact iff_of_true rfl ⟨plan, rows, rfl⟩
  | missing => exact iff_of_false nofun fun ⟨_, _, hsame⟩ => nomatch hsame
  | unknown row rows state =>
    refine iff_of_false nofun fun ⟨plan, _, hsame⟩ => state ?_
    have hcells : row.cells = cellsOfPlan plan := (List.cons.inj (Except.ok.inj hsame)).1
    exact (PlanRow.reads .record).isState_iff.2 ⟨plan, PlanRow.plan_eq_ok_iff.2 hcells⟩
  | failed _ _ other =>
    refine iff_of_false nofun fun ⟨plan, rows, hsame⟩ => ?_
    obtain ⟨row, hcells⟩ := hrow plan
    exact other row rows (by rw [hsame, hcells])

lemma LookedUp.eq_notFound_iff (h : LookedUp planId found value) :
    value = .error (.notFound "payment plan" planId) ↔ found = .ok [] := by
  cases h with
  | known | unknown => exact iff_of_false nofun nofun
  | missing => exact iff_of_true rfl rfl
  | failed _ some => exact iff_of_false nofun some

end

/-! ## Listings -/

section

variable {σ : Type} (answer : (s : Sql.Statement) → σ → s.Answer × σ) (s : σ)

lemma lists_listPlans (userId : Identifier) :
    Lists PlanRow.cells PlanRow.status IsPlanState cellsOfPlan
      (fun text => .unsupportedRow "listed payment plan" (PlanStatus.unknownMessage text))
      (.queryFailed "list_payment_plans_by_user_id" ["failed to list payment plans by user id"])
      (answer (.listPlans userId) s).1 ((listPlans userId).run answer s).value := by
  rw [listPlans_eq_call, run, run]
  refine (PlanRow.reads .listed).lists (fun hread => ?_) (fun hread => ?_)
    fun rows hsome hread => ?_
  · rw [hread]
    rfl
  · rw [hread]
    rintro _ _ ⟨⟩
  · obtain ⟨row, rows, rfl⟩ := List.exists_cons_of_ne_nil hsome
    rw [hread, plansIn]

lemma lists_listInstallments (planId : Identifier) :
    Lists InstallmentRow.cells InstallmentRow.status IsInstallmentState cellsOfInstallment
      (fun text =>
        .unsupportedRow "listed payment installment" (InstallmentStatus.unknownMessage text))
      (.queryFailed "list_payment_installments_by_plan_id"
        ["failed to list payment installments by plan id"])
      (answer (.listInstallments planId) s).1 ((listInstallments planId).run answer s).value := by
  rw [listInstallments_eq_call, run]
  refine (InstallmentRow.reads .listed).lists (fun hread => ?_) (fun hread => ?_)
    fun rows hsome hread => ?_
  · rw [hread]
    rfl
  · rw [hread, installmentsIn, run, run]
    intro installments hsome hok
    -- What comes of the question for the plan is no installment in any case.
    exact hsome ((lookedUp planId _).eq_nil hok)
  · obtain ⟨row, rows, rfl⟩ := List.exists_cons_of_ne_nil hsome
    rw [hread, installmentsIn, run]

/-- Where there are no installments the plan is asked for, and nothing else. -/
lemma listInstallments_of_empty (planId : Identifier)
    (h : (answer (.listInstallments planId) s).1 = .ok []) :
    let found := (answer (.getPlan planId) (answer (.listInstallments planId) s).2).1
    (listInstallments planId).exchanges answer s =
        [⟨.listInstallments planId, .ok []⟩, ⟨.getPlan planId, found⟩] ∧
      LookedUp planId found ((listInstallments planId).run answer s).value := by
  have hread : Reply.all? InstallmentRow.decode? (.ok []) = some [] := rfl
  rw [listInstallments_eq_call, exchanges, run, h, hread]
  exact ⟨rfl, lookedUp planId _⟩

/-- Where there is an installment, or a failure, nothing else is asked for. -/
lemma exchanges_listInstallments (planId : Identifier)
    (h : (answer (.listInstallments planId) s).1 ≠ .ok []) :
    (listInstallments planId).exchanges answer s =
      [⟨.listInstallments planId, (answer (.listInstallments planId) s).1⟩] := by
  rw [listInstallments_eq_call, exchanges]
  rcases hread : (answer (.listInstallments planId) s).1.all? InstallmentRow.decode? with
    _ | _ | ⟨row, rows⟩
  · rfl
  · exact absurd ((Reply.all?_eq_some_iff (InstallmentRow.reads .listed).decode_iff).1 hread) h
  · rfl

/-- **Nothing is lost or mixed up on the way from rows to entities**, whatever a database replies.
Each listing sends its statement and gives one entity for each row, in the order of the rows and
with what their columns hold, exactly if all their states are known; else it tells of the first
that is not, or of a failure under its own name.  A user without rows has no plans.  Of a plan
without rows it is asked, and of nothing else, whether it is there, and its schedule is empty
exactly if it is. -/
theorem listings_keep_rows :
    (∀ userId,
      let reply := (answer (.listPlans userId) s).1
      let value := ((listPlans userId).run answer s).value
      (listPlans userId).exchanges answer s = [⟨.listPlans userId, reply⟩] ∧
      Lists PlanRow.cells PlanRow.status IsPlanState cellsOfPlan
        (fun text => .unsupportedRow "listed payment plan" (PlanStatus.unknownMessage text))
        (.queryFailed "list_payment_plans_by_user_id" ["failed to list payment plans by user id"])
        reply value ∧
      (reply = .ok [] → value = .error (.notFound "payment plan" userId))) ∧
    ∀ planId,
      let reply := (answer (.listInstallments planId) s).1
      let found := (answer (.getPlan planId) (answer (.listInstallments planId) s).2).1
      let asked := (listInstallments planId).exchanges answer s
      let value := ((listInstallments planId).run answer s).value
      Lists InstallmentRow.cells InstallmentRow.status IsInstallmentState cellsOfInstallment
        (fun text =>
          .unsupportedRow "listed payment installment" (InstallmentStatus.unknownMessage text))
        (.queryFailed "list_payment_installments_by_plan_id"
          ["failed to list payment installments by plan id"])
        reply value ∧
      (reply ≠ .ok [] → asked = [⟨.listInstallments planId, reply⟩]) ∧
      (reply = .ok [] →
        asked = [⟨.listInstallments planId, .ok []⟩, ⟨.getPlan planId, found⟩] ∧
        LookedUp planId found value ∧
        (value = .ok [] ↔ ∃ plan rows, found = .ok (cellsOfPlan plan :: rows)) ∧
        (value = .error (.notFound "payment plan" planId) ↔ found = .ok [])) := by
  refine ⟨fun userId => ⟨?_, lists_listPlans answer s userId, fun hempty => ?_⟩,
    fun planId => ⟨lists_listInstallments answer s planId, exchanges_listInstallments answer s planId,
      fun hempty => ?_⟩⟩
  · rw [listPlans_eq_call]
    rfl
  · rw [listPlans_eq_call, run, hempty]
    rfl
  · obtain ⟨hasked, hfound⟩ := listInstallments_of_empty answer s planId hempty
    exact ⟨hasked, hfound, hfound.eq_ok_iff, hfound.eq_notFound_iff⟩

end

end PaymentPlans.Relational
