/-
# Views as JSON

How a plan with its installments is shown to users: all members in a fixed order, amounts and
instants as text.
-/
import PaymentPlans.Json.Printer
import PaymentPlans.Plan

namespace PaymentPlans

/-- An installment as JSON. -/
def InstallmentView.json (v : InstallmentView) : Json.Value :=
  .object [("id", .string v.id.text), ("payment_plan_id", .string v.planId.text),
    ("currency", .string v.currency), ("amount", .string v.amount),
    ("due_at", .string v.dueAt.text), ("status", .string v.status.text),
    ("created_at", .string v.createdAt.text), ("updated_at", .string v.updatedAt.text)]

/-- A plan with its installments as JSON. -/
def PlanView.json (v : PlanView) : Json.Value :=
  .object [("id", .string v.id.text), ("user_id", .string v.userId.text),
    ("currency", .string v.currency), ("total_amount", .string v.totalAmount),
    ("status", .string v.status.text), ("created_at", .string v.createdAt.text),
    ("updated_at", .string v.updatedAt.text),
    ("installments", .list (v.installments.map InstallmentView.json))]

end PaymentPlans
