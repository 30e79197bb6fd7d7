/-
# The states of plans and installments

A plan is pending until it is complete; an installment is pending, then due, then paid.  Nothing
in this library makes an installment due: a scheduler outside does.
-/
import PaymentPlans.Text.Quoted

namespace PaymentPlans

/-- The state of a plan. -/
inductive PlanStatus where
  | pending
  | complete
deriving DecidableEq, Repr

/-- The state of an installment. -/
inductive InstallmentStatus where
  | pending
  | due
  | paid
deriving DecidableEq, Repr

namespace PlanStatus

/-- The name under which a state is stored and shown. -/
def text : PlanStatus → String
  | pending => "pending"
  | complete => "complete"

/-- The state with a name. -/
def ofText? : String → Option PlanStatus
  | "pending" => some .pending
  | "complete" => some .complete
  | _ => none

@[simp] theorem ofText?_text (s : PlanStatus) : ofText? s.text = some s := by cases s <;> rfl

theorem eq_text_of_ofText? {t : String} {s : PlanStatus} (h : ofText? t = some s) : t = s.text := by
  unfold ofText? at h
  split at h <;> simp_all [text] <;> subst h <;> rfl

/-- What is said of a text that names no state of a plan. -/
def unknownMessage (found : String) : String := "invalid plan status: " ++ Text.quoted found

end PlanStatus

namespace InstallmentStatus

/-- The name under which a state is stored and shown. -/
def text : InstallmentStatus → String
  | pending => "pending"
  | due => "due"
  | paid => "paid"

/-- The state with a name. -/
def ofText? : String → Option InstallmentStatus
  | "pending" => some .pending
  | "due" => some .due
  | "paid" => some .paid
  | _ => none

@[simp] theorem ofText?_text (s : InstallmentStatus) : ofText? s.text = some s := by
  cases s <;> rfl

theorem eq_text_of_ofText? {t : String} {s : InstallmentStatus} (h : ofText? t = some s) :
    t = s.text := by
  unfold ofText? at h
  split at h <;> simp_all [text] <;> subst h <;> rfl

/-- What is said of a text that names no state of an installment. -/
def unknownMessage (found : String) : String := "invalid installment status: " ++ Text.quoted found

end InstallmentStatus

end PaymentPlans
