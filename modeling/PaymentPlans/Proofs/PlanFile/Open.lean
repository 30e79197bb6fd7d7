/-
# A plan file with one due date left open

The due date of one installment of a file is left open.  Whatever string or moment is typed there,
the file is refused for something else, or the answer depends on the instant that was typed alone.
-/
import PaymentPlans.PlanFile
import PaymentPlans.Proofs.Text.Front
import PaymentPlans.Proofs.Toml.Place

namespace PaymentPlans

/-- The request with another due date of one of its payments, counted from none. -/
def PlanRequest.withDue (r : PlanRequest) (index : Nat) (dueAt : Instant) : PlanRequest :=
  { r with installments := r.installments.modify index fun payment => { payment with dueAt } }

@[simp] lemma PlanRequest.length_withDue (r : PlanRequest) (index : Nat) (dueAt : Instant) :
    (r.withDue index dueAt).installments.length = r.installments.length := List.length_modify ..

/-- The newer due date counts. -/
@[simp] lemma PlanRequest.withDue_withDue (r : PlanRequest) (index : Nat) (old new : Instant) :
    (r.withDue index old).withDue index new = r.withDue index new := by
  rw [withDue, withDue, withDue, List.modify_modify_eq]
  rfl

namespace PlanFile

open Toml (Value Cell Listed Place)

/-! ## The shape of the file -/

/-- The field of a due date. -/
def dueField : String := "due_at"

/-- The field of the installments. -/
def listField : String := "installments"

/-- A table with an open due date is no installment, or one with what is typed there. -/
lemma ofToml?_cell (origin : Toml.Origin) (c : Cell dueField) :
    (∀ value, value.IsPlain → Entry.ofToml? (.table origin (c.fill value)) = none) ∨
      ∃ amount currency, ∀ value, value.IsPlain →
        Entry.ofToml? (.table origin (c.fill value)) = some ⟨amount, currency, value⟩ := by
  let others := c.before ++ c.behind
  have hfields : ∀ value, (Value.table origin (c.fill value)).fields?
      ["amount", "currency", "due_at"] =
        some [others.lookup "amount", others.lookup "currency", some value] := by
    intro value
    have hdue : (c.fill value).lookup "due_at" = some value := c.lookup_fill_self value
    simp only [Value.fields?, List.map_cons, List.map_nil, hdue, others,
      c.lookup_fill_of_ne (show "amount" ≠ dueField by decide),
      c.lookup_fill_of_ne (show "currency" ≠ dueField by decide)]
  have hsettle : ∀ value : Value, value.IsPlain → value.settle? = some value := by
    rintro _ (_ | _) <;> rfl
  rcases hamount : others.lookup "amount" with _ | amount
  · refine .inl fun value _ => ?_
    simp only [Entry.ofToml?, hfields, hamount]
  rcases hcurrency : others.lookup "currency" with _ | currency
  · refine .inl fun value _ => ?_
    simp only [Entry.ofToml?, hfields, hamount, hcurrency]
  rcases hamountText : amount.text? with _ | amountText
  · refine .inl fun value _ => ?_
    simp only [Entry.ofToml?, hfields, hamount, hcurrency, hamountText]
    rfl
  rcases hcurrencyText : currency.text? with _ | currencyText
  · refine .inl fun value _ => ?_
    simp only [Entry.ofToml?, hfields, hamount, hcurrency, hamountText, hcurrencyText]
    rfl
  refine .inr ⟨amountText, currencyText, fun value hvalue => ?_⟩
  simp only [Entry.ofToml?, hfields, hamount, hcurrency, hamountText, hcurrencyText,
    hsettle value hvalue]
  rfl

/-- A list of tables with an open due date is no list of installments, or one of them has what is
typed there. -/
lemma entries?_listed (l : Listed dueField) :
    (∀ value, value.IsPlain → entries? (some (l.fill value)) = none) ∨
      ∃ before amount currency behind, ∀ value, value.IsPlain →
        entries? (some (l.fill value)) = some (before ++ ⟨amount, currency, value⟩ :: behind) := by
  have hitems : ∀ value, entries? (some (l.fill value)) = (do
      let before ← l.before.mapM Entry.ofToml?
      let entry ← Entry.ofToml? (.table l.origin (l.cell.fill value))
      let behind ← l.behind.mapM Entry.ofToml?
      return before ++ entry :: behind) := by
    intro value
    have hlist : (l.fill value).items? =
        some (l.before ++ .table l.origin (l.cell.fill value) :: l.behind) := by
      rw [Listed.fill]
      cases l.bracketed <;> rfl
    simp only [entries?, hlist, Option.bind_eq_bind, Option.bind_some, List.mapM_append,
      List.mapM_cons, Option.pure_def, Option.bind_assoc]
  rcases hbefore : l.before.mapM Entry.ofToml? with _ | before
  · refine .inl fun value _ => ?_
    rw [hitems, hbefore]
    rfl
  rcases ofToml?_cell l.origin l.cell with hnone | ⟨amount, currency, hentry⟩
  · refine .inl fun value hvalue => ?_
    rw [hitems, hbefore, hnone value hvalue]
    rfl
  rcases hbehind : l.behind.mapM Entry.ofToml? with _ | behind
  · refine .inl fun value hvalue => ?_
    rw [hitems, hbefore, hentry value hvalue, hbehind]
    rfl
  refine .inr ⟨before, amount, currency, behind, fun value hvalue => ?_⟩
  rw [hitems, hbefore, hentry value hvalue, hbehind]
  rfl

/-- The other fields of a file are read apart from its installments. -/
lemma ofParts?_eq (plan : Value) (installments : Option Value) :
    ofParts? plan installments = (ofParts? plan none).bind fun file =>
      (entries? installments).map fun entries => { file with entries } := by
  have hnone : entries? none = some [] := rfl
  rw [ofParts?, ofParts?]
  split
  · next id _ _ _ _ =>
    simp only [hnone, Option.bind_eq_bind, Option.bind_some, Option.pure_def, Option.bind_assoc,
      Option.map_eq_bind]
    cases id <;> simp only [Option.bind_assoc, Option.bind_some] <;> rfl
  · rfl

/-- A document with an open due date is no plan file, or a file with what is typed there. -/
lemma ofToml?_place (p : Place listField dueField) :
    (∀ value, value.IsPlain → ofToml? (.table .headed (p.fill value)) = none) ∨
      ∃ (file : PlanFile) (before : List Entry) (amount currency : String) (behind : List Entry),
        ∀ value, value.IsPlain → ofToml? (.table .headed (p.fill value)) =
          some { file with entries := before ++ ⟨amount, currency, value⟩ :: behind } := by
  let others := p.outer.before ++ p.outer.behind
  have hfields : ∀ value, (Value.table .headed (p.fill value)).fields? ["plan", "installments"] =
      some [others.lookup "plan", some (p.listed.fill value)] := by
    intro value
    have hlist : (p.outer.fill (p.listed.fill value)).lookup "installments" =
        some (p.listed.fill value) := p.outer.lookup_fill_self _
    simp only [Value.fields?, List.map_cons, List.map_nil, Place.fill, hlist, others,
      p.outer.lookup_fill_of_ne (show "plan" ≠ listField by decide)]
  rcases hplan : others.lookup "plan" with _ | plan
  · refine .inl fun value _ => ?_
    simp only [ofToml?, hfields, hplan]
  have hparts : ∀ value, ofToml? (.table .headed (p.fill value)) =
      ofParts? plan (some (p.listed.fill value)) := fun value => by
    simp only [ofToml?, hfields, hplan]
  simp only [hparts]
  rcases hfile : ofParts? plan none with _ | file
  · refine .inl fun value _ => ?_
    rw [ofParts?_eq, hfile]
    rfl
  obtain hnone | ⟨before, amount, currency, behind, hentries⟩ := entries?_listed p.listed
  · refine .inl fun value hvalue => ?_
    rw [ofParts?_eq, hfile, Option.bind_some, hnone value hvalue]
    rfl
  · refine .inr ⟨file, before, amount, currency, behind, fun value hvalue => ?_⟩
    rw [ofParts?_eq, hfile, Option.bind_some, hentries value hvalue]
    rfl

/-! ## The request -/

/-- The requests for some installments are those for the first ones, for one, and for the rest. -/
lemma requests_append (number : Nat) (before : List Entry) (e : Entry) (behind : List Entry) :
    requests number (before ++ e :: behind) = do
      let first ← requests number before
      let payment ← e.request.mapError (.badInstallment (number + before.length))
      return first ++ payment :: (← requests (number + before.length + 1) behind) := by
  induction before generalizing number with
  | nil =>
    rw [List.nil_append, requests]
    rfl
  | cons entry before ih =>
    rw [List.cons_append, requests, requests, ih, List.length_cons,
      show number + 1 + before.length = number + (before.length + 1) by omega]
    simp only [bind_assoc, pure_bind, List.cons_append]

/-- As many requests are made as there are installments. -/
lemma length_requests {number : Nat} {entries : List Entry} {payments : List InstallmentRequest}
    (h : requests number entries = .ok payments) : payments.length = entries.length := by
  induction entries generalizing number payments with
  | nil => exact congrArg List.length (Except.ok.inj h).symm
  | cons e entries ih =>
    rw [requests] at h
    rcases hfirst : e.request.mapError (Error.badInstallment number) with fault | payment
    · rw [hfirst] at h
      exact nomatch h
    rcases hothers : requests (number + 1) entries with fault | others
    · rw [hfirst, hothers] at h
      exact nomatch h
    rw [hfirst, hothers] at h
    rw [← Except.ok.inj h, List.length_cons, List.length_cons, ih hothers]

/-- The payment of an installment is due when it was typed to be. -/
lemma mapError_request (e : Entry) (number : Nat) :
    e.request.mapError (Error.badInstallment number) =
      (due e.dueAt).mapError (Error.badInstallment number) >>= fun dueAt =>
        .ok ⟨e.amount, e.currency, dueAt⟩ := by
  rw [Entry.request]
  cases due e.dueAt <;> rfl

/-- What a file answers whose document is known. -/
def answer (document : Option Toml.Entries) : Except Error PlanRequest :=
  match document.map (Value.table .headed) >>= ofToml? with
  | none => .error .misshapen
  | some file => file.request

/-- The answer of a file with an open due date: one of the other installments may be refused, else
the request is the same but for the instant that was typed. -/
lemma request_open (file : PlanFile) (before : List Entry) (amount currency : String)
    (behind : List Entry) :
    (∃ error, ∀ value, request { file with entries := before ++ ⟨amount, currency, value⟩ :: behind } =
      .error error) ∨
    ∃ (index : Nat) (rest : Except Error PlanRequest),
      (∀ r, rest = .ok r → index < r.installments.length) ∧ ∀ value,
      request { file with entries := before ++ ⟨amount, currency, value⟩ :: behind } =
        (due value).mapError (.badInstallment (index + 1)) >>= fun dueAt =>
          rest.map fun r => r.withDue index dueAt := by
  rcases hbefore : requests 1 before with fault | first
  · refine .inl ⟨fault, fun value => ?_⟩
    rw [request, requests_append, hbefore]
    rfl
  have hlength : first.length = before.length := length_requests hbefore
  have hanswer : ∀ value, request { file with
      entries := before ++ ⟨amount, currency, value⟩ :: behind } =
        (due value).mapError (.badInstallment (before.length + 1)) >>= fun dueAt =>
          (requests (before.length + 1 + 1) behind).map fun others =>
            { id := file.id, userId := file.userId, currency := file.currency,
              totalAmount := file.totalAmount,
              installments := first ++ ⟨amount, currency, dueAt⟩ :: others } := by
    intro value
    rw [request, requests_append, hbefore, mapError_request, Nat.add_comm 1 before.length]
    rcases (due value).mapError (Error.badInstallment (before.length + 1)) with fault | dueAt
    · rfl
    · rcases requests (before.length + 1 + 1) behind with fault | others <;> rfl
  have hmodify : ∀ dueAt others, (first ++ ⟨amount, currency, .epoch⟩ :: others).modify
      before.length (fun payment => { payment with dueAt }) =
        first ++ ⟨amount, currency, dueAt⟩ :: others := by
    intro dueAt others
    rw [← hlength]
    clear hbefore hlength hanswer
    induction first with
    | nil => rfl
    | cons payment first ih =>
      rw [List.cons_append, List.length_cons, List.modify_succ_cons, ih, List.cons_append]
  simp only [hanswer]
  rcases requests (before.length + 1 + 1) behind with fault | others
  · exact .inr ⟨before.length, .error fault, nofun, fun _ => rfl⟩
  · let r : PlanRequest := ⟨file.id, file.userId, file.currency, file.totalAmount,
      first ++ ⟨amount, currency, .epoch⟩ :: others⟩
    refine .inr ⟨before.length, .ok r, fun s hs => ?_, fun value => ?_⟩
    · rw [← Except.ok.inj hs, List.length_append, List.length_cons, hlength]
      omega
    · simp only [map_ok, PlanRequest.withDue, r, hmodify]

/-- **The answer of a file with an open due date.**  Whatever string or moment is typed there, the
file is refused for something else, or the request is the same but for the instant that was
typed. -/
lemma answer_open {document : Value → Option Toml.Entries}
    (hdocument : (∀ value, value.IsPlain → document value = none) ∨
      ∃ p : Place listField dueField, ∀ value, value.IsPlain → document value = some (p.fill value)) :
    (∃ error, ∀ value, value.IsPlain → answer (document value) = .error error) ∨
    ∃ (index : Nat) (rest : Except Error PlanRequest),
      (∀ r, rest = .ok r → index < r.installments.length) ∧ ∀ value, value.IsPlain →
        answer (document value) = (due value).mapError (.badInstallment (index + 1)) >>= fun dueAt =>
          rest.map fun r => r.withDue index dueAt := by
  rcases hdocument with hnone | ⟨p, hp⟩
  · refine .inl ⟨.misshapen, fun value hvalue => ?_⟩
    rw [hnone value hvalue]
    rfl
  rcases ofToml?_place p with hnone | ⟨file, first, amount, currency, others, hfile⟩
  · refine .inl ⟨.misshapen, fun value hvalue => ?_⟩
    rw [hp value hvalue, answer, Option.map_some, Option.bind_eq_bind, Option.bind_some,
      hnone value hvalue]
  have hrequest : ∀ value, value.IsPlain → answer (document value) =
      request { file with entries := first ++ ⟨amount, currency, value⟩ :: others } := by
    intro value hvalue
    rw [hp value hvalue, answer, Option.map_some, Option.bind_eq_bind, Option.bind_some,
      hfile value hvalue]
  refine (request_open file first amount currency others).imp (fun ⟨error, herror⟩ => ?_)
    fun ⟨index, rest, hindex, hrest⟩ => ⟨index, rest, hindex, fun value hvalue => ?_⟩
  · exact ⟨error, fun value hvalue => (hrequest value hvalue).trans (herror value)⟩
  · exact (hrequest value hvalue).trans (hrest value)

end PlanFile

end PaymentPlans
