/-
# Text measured in bytes

Lengths and positions that users see are counted in bytes of the usual encoding, in which a
character takes one to four of them.
-/

namespace PaymentPlans.Text

/-- The number of bytes of a text. -/
def byteCount : List Char → Nat
  | [] => 0
  | c :: cs => c.utf8Size + byteCount cs

@[simp] theorem byteCount_nil : byteCount [] = 0 := rfl

@[simp] theorem byteCount_cons (c : Char) (cs : List Char) :
    byteCount (c :: cs) = c.utf8Size + byteCount cs := rfl

@[simp] theorem byteCount_append (cs ds : List Char) :
    byteCount (cs ++ ds) = byteCount cs + byteCount ds := by
  induction cs with
  | nil => simp
  | cons c cs ih => rw [List.cons_append, byteCount_cons, byteCount_cons, ih, Nat.add_assoc]

end PaymentPlans.Text
