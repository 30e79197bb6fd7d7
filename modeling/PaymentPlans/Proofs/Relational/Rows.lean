/-
# Rows and what they hold

A row that can be decoded is the columns of what it is decoded into, and a row whose state is known
is the columns of an entity; so nothing in a row is lost or changed on the way.  Rows are taken one
after the other, and the first that cannot be taken ends it.
-/
import PaymentPlans.Proofs.Sql.Value
import PaymentPlans.Proofs.Traversal
import PaymentPlans.Relational.Tables

namespace PaymentPlans.Relational

open Sql (Value)

/-! ## Rows -/

/-- The columns of a row of the table of plans. -/
def PlanRow.cells (row : PlanRow) : Sql.Row :=
  [.identifier row.id, .identifier row.userId, .text row.currency, .amount row.amount,
    .text row.status, .instant row.createdAt, .instant row.updatedAt]

/-- The columns of a row of the table of installments. -/
def InstallmentRow.cells (row : InstallmentRow) : Sql.Row :=
  [.identifier row.id, .identifier row.planId, .text row.currency, .amount row.amount,
    .instant row.dueAt, .text row.status, .instant row.createdAt, .instant row.updatedAt]

/-- A row of plans is decoded into what its columns are. -/
lemma PlanRow.decode?_eq_some_iff {cells : Sql.Row} {row : PlanRow} :
    PlanRow.decode? cells = some row ↔ cells = row.cells := by
  constructor
  · intro h
    unfold PlanRow.decode? at h
    split at h
    · simp only [Option.bind_eq_bind, Option.bind_eq_some_iff, Value.identifier?_eq_some_iff,
        Value.text?_eq_some_iff, Value.amount?_eq_some_iff, Value.instant?_eq_some_iff] at h
      obtain ⟨_, rfl, _, rfl, _, rfl, _, rfl, _, rfl, _, rfl, _, rfl, hrow⟩ := h
      rw [← Option.some.inj hrow]
      rfl
    · exact nomatch h
  · rintro rfl
    rfl

/-- A row of installments is decoded into what its columns are. -/
lemma InstallmentRow.decode?_eq_some_iff {cells : Sql.Row} {row : InstallmentRow} :
    InstallmentRow.decode? cells = some row ↔ cells = row.cells := by
  constructor
  · intro h
    unfold InstallmentRow.decode? at h
    split at h
    · simp only [Option.bind_eq_bind, Option.bind_eq_some_iff, Value.identifier?_eq_some_iff,
        Value.text?_eq_some_iff, Value.amount?_eq_some_iff, Value.instant?_eq_some_iff] at h
      obtain ⟨_, rfl, _, rfl, _, rfl, _, rfl, _, rfl, _, rfl, _, rfl, _, rfl, hrow⟩ := h
      rw [← Option.some.inj hrow]
      rfl
    · exact nomatch h
  · rintro rfl
    rfl

/-- A row is taken for a plan exactly if it is the row of that plan. -/
lemma PlanRow.plan_eq_ok_iff {shape : Shape} {row : PlanRow} {plan : Plan} :
    row.plan shape = .ok plan ↔ row.cells = cellsOfPlan plan := by
  constructor
  · intro h
    rw [PlanRow.plan] at h
    split at h
    · next status hstatus =>
      rw [← Except.ok.inj h, PlanRow.cells, PlanStatus.eq_text_of_ofText? hstatus]
      rfl
    · exact nomatch h
  · intro h
    simp only [PlanRow.cells, cellsOfPlan, List.cons.injEq, Value.identifier.injEq,
      Value.text.injEq, Value.amount.injEq, Value.instant.injEq, and_true] at h
    obtain ⟨hid, huser, hcurrency, hamount, hstatus, hcreated, hupdated⟩ := h
    simp only [PlanRow.plan, hid, huser, hcurrency, hamount, hstatus, hcreated, hupdated,
      PlanStatus.ofText?_text]

/-- A row is taken for an installment exactly if it is the row of that installment. -/
lemma InstallmentRow.installment_eq_ok_iff {shape : Shape} {row : InstallmentRow}
    {i : Installment} : row.installment shape = .ok i ↔ row.cells = cellsOfInstallment i := by
  constructor
  · intro h
    rw [InstallmentRow.installment] at h
    split at h
    · next status hstatus =>
      rw [← Except.ok.inj h, InstallmentRow.cells, InstallmentStatus.eq_text_of_ofText? hstatus]
      rfl
    · exact nomatch h
  · intro h
    simp only [InstallmentRow.cells, cellsOfInstallment, List.cons.injEq,
      Value.identifier.injEq, Value.text.injEq, Value.amount.injEq,
      Value.instant.injEq, and_true] at h
    obtain ⟨hid, hplan, hcurrency, hamount, hdue, hstatus, hcreated, hupdated⟩ := h
    simp only [InstallmentRow.installment, hid, hplan, hcurrency, hamount, hdue, hstatus, hcreated,
      hupdated, InstallmentStatus.ofText?_text]

/-! ## Rows one after the other -/

/-- Rows are taken for entities exactly if they are the rows of these entities. -/
lemma mapM_eq_ok_iff {ρ ε δ : Type} {cells : ρ → Sql.Row} {entity : ρ → Except δ ε}
    {cellsOf : ε → Sql.Row} (hentity : ∀ row e, entity row = .ok e ↔ cells row = cellsOf e)
    {rows : List ρ} {entities : List ε} :
    rows.mapM entity = .ok entities ↔ rows.map cells = entities.map cellsOf := by
  have hsame : rows.map cells = entities.map cellsOf ↔
      List.Forall₂ Eq (rows.map cells) (entities.map cellsOf) := by rw [List.forall₂_eq_eq_eq]
  simp only [mapM_eq_ok_iff_forall₂, hentity, hsame, List.forall₂_map_left_iff,
    List.forall₂_map_right_iff]

end PaymentPlans.Relational
