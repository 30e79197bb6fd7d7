/-
# The shape of a plan file

A document has the shape of a plan file if there is a file that it says: the texts of the plan are
those of the document, and the installments stand in the order of its list, each with its due date
as it was typed.  What is read from a document is what it says, but for tables that stand for
moments: these are put in the place of the tables.
-/
import PaymentPlans.PlanFile
import PaymentPlans.Proofs.Toml.Moments
import PaymentPlans.Proofs.Traversal

namespace PaymentPlans

namespace PlanFile

open Toml (Value)

/-- A value says an installment: it has its texts, and its due date as it was typed.  A table that is
marked as a moment has to give one. -/
inductive SaysEntry : Value → Entry → Prop where
  | mk {v : Value} {e : Entry} (hfields : v.fields? ["amount", "currency", "due_at"] =
        some [some (.text e.amount), some (.text e.currency), some e.dueAt])
      (hdue : e.dueAt.settle?.isSome) : SaysEntry v e

/-- A value, if there is one, says the installments in its list one after the other. -/
inductive SaysEntries : Option Value → List Entry → Prop where
  | missing : SaysEntries none []
  | list {v : Value} {items : List Value} {entries : List Entry} (hitems : v.items? = some items)
      (hentries : List.Forall₂ SaysEntry items entries) : SaysEntries (some v) entries

/-- A document says a plan file. -/
inductive Says : Value → PlanFile → Prop where
  | mk {document plan userId : Value} {id installments : Option Value} {file : PlanFile}
      (hparts : document.fields? ["plan", "installments"] = some [some plan, installments])
      (hplan : plan.fields? ["id", "user_id", "currency", "total_amount"] =
        some [id, some userId, some (.text file.currency), some (.text file.totalAmount)])
      (hid : id.map identifier? = file.id.map some)
      (huserId : identifier? userId = some file.userId)
      (hentries : SaysEntries installments file.entries) : Says document file

/-- An installment with moments in the place of tables that stand for them. -/
def Entry.settled (e : Entry) : Entry := { e with dueAt := e.dueAt.settle?.getD e.dueAt }

/-- A file with moments in the place of tables that stand for them. -/
def settled (file : PlanFile) : PlanFile := { file with entries := file.entries.map Entry.settled }

/-! ## What is read from a document -/

lemma text?_eq_some_iff {v : Value} {s : String} : v.text? = some s ↔ v = .text s := by
  cases v <;> simp [Value.text?]

lemma Entry.ofToml?_eq_some_iff {v : Value} {taken : Entry} :
    Entry.ofToml? v = some taken ↔ ∃ e, SaysEntry v e ∧ e.settled = taken := by
  constructor
  · intro h
    rw [Entry.ofToml?] at h
    split at h
    · next amount currency dueAt hfields =>
      obtain ⟨_, hamount, h⟩ := Option.bind_eq_some_iff.1 h
      obtain ⟨_, hcurrency, h⟩ := Option.bind_eq_some_iff.1 h
      obtain ⟨due, hdue, h⟩ := Option.bind_eq_some_iff.1 h
      rw [text?_eq_some_iff.1 hamount, text?_eq_some_iff.1 hcurrency] at hfields
      cases h
      refine ⟨⟨_, _, dueAt⟩, .mk hfields (by rw [hdue]; rfl), ?_⟩
      rw [Entry.settled, hdue, Option.getD_some]
    · cases h
  · rintro ⟨e, ⟨hfields, hdue⟩, rfl⟩
    obtain ⟨due, hdue⟩ := Option.isSome_iff_exists.1 hdue
    rw [Entry.ofToml?, hfields, Entry.settled]
    simp only [Value.text?, hdue]
    rfl

lemma entries?_eq_some_iff {installments : Option Value} {taken : List Entry} :
    entries? installments = some taken ↔
      ∃ entries, SaysEntries installments entries ∧ entries.map Entry.settled = taken := by
  constructor
  · intro h
    rcases installments with _ | v
    · cases h
      exact ⟨[], .missing, rfl⟩
    · obtain ⟨items, hitems, h⟩ := Option.bind_eq_some_iff.1 h
      simp only [mapM_eq_some_iff_forall₂, Entry.ofToml?_eq_some_iff] at h
      obtain ⟨entries, hentries, htaken⟩ := exists_map_eq_of_forall₂ h
      exact ⟨entries, .list hitems hentries, htaken⟩
  · rintro ⟨entries, h, rfl⟩
    cases h with
    | missing => rfl
    | list hitems hentries =>
      rw [entries?, hitems]
      refine mapM_eq_some_iff_forall₂.2 (List.forall₂_map_right_iff.2 ?_)
      exact hentries.imp fun _ e hsaid => Entry.ofToml?_eq_some_iff.2 ⟨e, hsaid, rfl⟩

/-- A file is put together from its own identifier and from what the other fields say. -/
lemma parts_eq_some_iff {own : Option Identifier} {userId currency totalAmount : Value}
    {installments : Option Value} {file : PlanFile} :
    (do return { id := own, userId := ← identifier? userId, currency := ← currency.text?,
                 totalAmount := ← totalAmount.text?, entries := ← entries? installments }) =
        some file ↔
      own = file.id ∧ identifier? userId = some file.userId ∧ currency = .text file.currency ∧
        totalAmount = .text file.totalAmount ∧ entries? installments = some file.entries := by
  simp only [← text?_eq_some_iff]
  constructor
  · intro h
    obtain ⟨user, huser, h⟩ := Option.bind_eq_some_iff.1 h
    obtain ⟨code, hcode, h⟩ := Option.bind_eq_some_iff.1 h
    obtain ⟨total, htotal, h⟩ := Option.bind_eq_some_iff.1 h
    obtain ⟨entries, hentries, h⟩ := Option.bind_eq_some_iff.1 h
    cases h
    exact ⟨rfl, huser, hcode, htotal, hentries⟩
  · rintro ⟨rfl, huser, hcode, htotal, hentries⟩
    rw [huser, hcode, htotal, hentries]
    rfl

/-- The identifier of a plan may be missing, but one that is there has to be read. -/
lemma ofParts?_eq_some_iff {plan : Value} {installments : Option Value} {file : PlanFile} :
    ofParts? plan installments = some file ↔ ∃ id userId,
      plan.fields? ["id", "user_id", "currency", "total_amount"] =
        some [id, some userId, some (.text file.currency), some (.text file.totalAmount)] ∧
      id.map identifier? = file.id.map some ∧ identifier? userId = some file.userId ∧
      entries? installments = some file.entries := by
  constructor
  · intro h
    rw [ofParts?] at h
    split at h
    · next id userId currency totalAmount hplan =>
      -- What follows the identifier is read in the same way, whether there is one or not.
      rcases id with _ | v
      · obtain ⟨hid, huserId, rfl, rfl, hentries⟩ := parts_eq_some_iff.1 h
        rw [← hid]
        exact ⟨none, userId, hplan, rfl, huserId, hentries⟩
      · obtain ⟨_, hv, h⟩ := Option.bind_eq_some_iff.1 h
        obtain ⟨i, hi, rfl⟩ := Option.map_eq_some_iff.1 hv
        obtain ⟨hid, huserId, rfl, rfl, hentries⟩ := parts_eq_some_iff.1 h
        rw [← hid]
        exact ⟨some v, userId, hplan, congrArg some hi, huserId, hentries⟩
    · cases h
  · rintro ⟨id, userId, hplan, hid, huserId, hentries⟩
    have hparts := parts_eq_some_iff.2 ⟨rfl, huserId, rfl, rfl, hentries⟩
    rw [ofParts?, hplan]
    rcases id with _ | v
    · rw [Option.map_none, eq_comm, Option.map_eq_none_iff] at hid
      rw [hid] at hparts
      exact hparts
    · obtain ⟨i, hi, hv⟩ := Option.map_eq_some_iff.1 hid.symm
      rw [hi] at hparts
      dsimp only
      rw [← hv]
      exact hparts

/-- **What is read from a document is what it says**, with moments in the place of tables that stand
for them. -/
lemma ofToml?_eq_some_iff {document : Value} {taken : PlanFile} :
    ofToml? document = some taken ↔ ∃ file, Says document file ∧ file.settled = taken := by
  constructor
  · intro h
    rw [ofToml?] at h
    split at h
    · next plan installments hparts =>
      obtain ⟨id, userId, hplan, hid, huserId, htaken⟩ := ofParts?_eq_some_iff.1 h
      obtain ⟨entries, hentries, htaken⟩ := entries?_eq_some_iff.1 htaken
      refine ⟨{ taken with entries }, .mk hparts hplan hid huserId hentries, ?_⟩
      rw [settled, htaken]
    · cases h
  · rintro ⟨file, ⟨hparts, hplan, hid, huserId, hentries⟩, rfl⟩
    rw [ofToml?, hparts]
    exact ofParts?_eq_some_iff.2
      ⟨_, _, hplan, hid, huserId, entries?_eq_some_iff.2 ⟨_, hentries, rfl⟩⟩

/-! ## The moments of what it says -/

/-- The fields of a value whose moments have spellings are such values. -/
lemma spelled_of_fields? {v : Value} (hv : v.Spelled) {names : List String}
    {fields : List (Option Value)} (h : v.fields? names = some fields) :
    ∀ w, some w ∈ fields → w.Spelled := by
  have hitems : ∀ {items : List Value}, (∀ v ∈ items, v.Spelled) →
      ∀ w, some w ∈ names.mapIdx (fun i _ => items[i]?) → w.Spelled := by
    intro items hitems w hw
    obtain ⟨i, _, hi⟩ := List.mem_mapIdx.1 hw
    exact hitems w (List.mem_of_getElem? hi)
  cases hv with
  | table origin hentries =>
    obtain rfl := Option.some.inj h
    intro w hw
    obtain ⟨name, -, hname⟩ := List.mem_map.1 hw
    exact Toml.Entries.Spelled.lookup hentries hname
  | list hlist =>
    obtain rfl := Option.some.inj h
    exact hitems hlist
  | tables htables =>
    obtain rfl := Option.some.inj h
    exact hitems htables
  | _ => exact nomatch h

lemma spelled_of_items? {v : Value} (hv : v.Spelled) {items : List Value}
    (h : v.items? = some items) : ∀ w ∈ items, w.Spelled := by
  cases hv with
  | list hlist => exact Option.some.inj h ▸ hlist
  | tables htables => exact Option.some.inj h ▸ htables
  | _ => exact nomatch h

/-- The due date of an installment was typed in a document: all moments in it have spellings, and
the tables that are marked as moments give some. -/
structure Entry.IsTyped (e : Entry) : Prop where
  spelled : e.dueAt.Spelled
  settles : e.dueAt.settle?.isSome

lemma SaysEntry.isTyped {v : Value} (hv : v.Spelled) {e : Entry} (h : SaysEntry v e) :
    e.IsTyped := by
  obtain ⟨hfields, hdue⟩ := h
  exact ⟨spelled_of_fields? hv hfields _ (by simp), hdue⟩

lemma SaysEntries.isTyped {installments : Option Value}
    (hspelled : ∀ v, installments = some v → v.Spelled) {entries : List Entry}
    (h : SaysEntries installments entries) : ∀ e ∈ entries, e.IsTyped := by
  cases h with
  | missing => exact List.forall_mem_nil _
  | list hitems hentries =>
    have hall := spelled_of_items? (hspelled _ rfl) hitems
    -- The induction is along both lists, so the items may no longer be those of one value.
    clear hitems
    induction hentries with
    | nil => exact List.forall_mem_nil _
    | cons hsaid _ ih =>
      obtain ⟨hv, hall⟩ := List.forall_mem_cons.1 hall
      exact List.forall_mem_cons.2 ⟨hsaid.isTyped hv, ih hall⟩

/-- The due dates of a file were typed in its document. -/
lemma Says.isTyped {document : Value} (hdocument : document.Spelled) {file : PlanFile}
    (h : Says document file) : ∀ e ∈ file.entries, e.IsTyped := by
  obtain ⟨hparts, -, -, -, hentries⟩ := h
  refine hentries.isTyped ?_
  rintro v rfl
  exact spelled_of_fields? hdocument hparts v (by simp)

end PlanFile

end PaymentPlans
