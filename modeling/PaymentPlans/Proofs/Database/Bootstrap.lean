/-
# What is sent to create a database

The name of a database cannot be a parameter of the statement that creates it: it becomes a part
of the statement's text.  So it is only sent if it could not be anything but a name, and before
it is sent the server is asked whether the database is there.  The address comes from outside and
may be any text, and the server may answer anything.
-/
import Mathlib.Tactic.Common
import PaymentPlans.Database.Bootstrap

namespace PaymentPlans.Database

open Program (Exchange run exchanges)

variable {σ : Type} (answer : (c : Call) → σ → Answer c × σ)

/-! ## Names -/

/-- A letter, a digit or an underscore, of those that every server takes for one. -/
def IsWordChar (c : Char) : Prop :=
  'A' ≤ c ∧ c ≤ 'Z' ∨ 'a' ≤ c ∧ c ≤ 'z' ∨ '0' ≤ c ∧ c ≤ '9' ∨ c = '_'

instance (c : Char) : Decidable (IsWordChar c) :=
  inferInstanceAs (Decidable
    ('A' ≤ c ∧ c ≤ 'Z' ∨ 'a' ≤ c ∧ c ≤ 'z' ∨ '0' ≤ c ∧ c ≤ '9' ∨ c = '_'))

lemma isPlain_iff (c : Char) : isPlain c ↔ IsWordChar c := by
  have hplain : isPlain c = (c.isUpper || c.isLower || c.isDigit || c == '_') := rfl
  have hupper : c.isUpper = decide ('A' ≤ c ∧ c ≤ 'Z') := rfl
  have hlower : c.isLower = (decide ('a' ≤ c) && decide (c ≤ 'z')) := rfl
  have hdigit : c.isDigit = (decide ('0' ≤ c) && decide (c ≤ '9')) := rfl
  rw [hplain, hupper, hlower, hdigit]
  simp only [Bool.or_eq_true, Bool.and_eq_true, decide_eq_true_eq, beq_iff_eq, or_assoc, IsWordChar]

/-- The database of a configuration is never the one without a name. -/
lemma ne_empty_of_databaseName? {config : Config} {name : String}
    (h : config.databaseName? = some name) : name ≠ "" := by
  rw [Config.databaseName?] at h
  split at h
  · next hname =>
    rintro rfl
    rw [Option.some_inj, String.ofList_eq_empty_iff] at h
    rw [h] at hname
    exact absurd hname (by decide)
  · exact nomatch h

/-- A database that may be created: it is the one that is configured, and its name is plain. -/
structure Config.Admits (config : Config) (name : String) : Prop where
  named : config.databaseName? = some name
  plain : ∀ c ∈ name.toList, IsWordChar c

/-! ## Replies -/

/-- A reply tells whether a database is there, in the first value of its first row. -/
def Tells (reply : Sql.Reply) (there : Bool) : Prop :=
  ∃ cells rows, reply = .ok ((.bool there :: cells) :: rows)

lemma one?_head?_eq_some_iff {reply : Sql.Reply} {there : Bool} :
    (reply.one? fun row => row.head? >>= Sql.Value.bool?) = some there ↔ Tells reply there := by
  constructor
  · intro h
    rcases reply with _ | _ | ⟨_ | ⟨value, cells⟩, rows⟩
    · exact nomatch h
    · exact nomatch h
    · exact nomatch h
    · cases value with
      | bool b =>
        obtain rfl := Option.some.inj h
        exact ⟨cells, rows, rfl⟩
      | _ => exact nomatch h
  · rintro ⟨cells, rows, rfl⟩
    rfl

/-- A reply tells one thing at most. -/
lemma Tells.unique {reply : Sql.Reply} {there there' : Bool} (h : Tells reply there)
    (h' : Tells reply there') : there = there' := by
  obtain ⟨_, _, rfl⟩ := h
  obtain ⟨_, _, hsame⟩ := h'
  simp only [Except.ok.injEq, List.cons.injEq, Sql.Value.bool.injEq] at hsame
  exact hsame.1.1

lemma Tells.not_true {reply : Sql.Reply} (h : Tells reply false) : ¬ Tells reply true :=
  fun htrue => nomatch htrue.unique h

/-! ## What is asked -/

/-- What is asked of a server, with its answers, to make sure that a database is there whose name
is plain, and what that ends with. -/
inductive Ensured (url name : String) : List (Exchange Answer) → Except Error Bool → Prop where
  | notReached : Ensured url name [⟨.connect url, false⟩] (.error (.maintenanceNotReached url))
  /-- The server does not tell whether the database is there. -/
  | unknown (found : Sql.Reply) (silent : ∀ there, ¬ Tells found there) :
      Ensured url name [⟨.connect url, true⟩, ⟨.send (.hasDatabase name), found⟩]
        (.error .existenceUnknown)
  | present (found : Sql.Reply) (tells : Tells found true) :
      Ensured url name [⟨.connect url, true⟩, ⟨.send (.hasDatabase name), found⟩] (.ok false)
  /-- The database is not there, and the server does not create it. -/
  | refused (found : Sql.Reply) (tells : Tells found false) (failure : Sql.Failure) :
      Ensured url name [⟨.connect url, true⟩, ⟨.send (.hasDatabase name), found⟩,
        ⟨.send (.createDatabase name), .error failure⟩] (.error (.notCreated name))
  | created (found : Sql.Reply) (tells : Tells found false) (rows : List Sql.Row) :
      Ensured url name [⟨.connect url, true⟩, ⟨.send (.hasDatabase name), found⟩,
        ⟨.send (.createDatabase name), .ok rows⟩] (.ok true)

/-- How a database is created once it is known whether it is there. -/
def createUnless (name : String) : Option Bool → DatabaseProgram (Except Error Bool)
  | none => .done (.error .existenceUnknown)
  | some true => .note (.databaseExists name) (.done (.ok false))
  | some false => .call (.send (.createDatabase name)) fun reply =>
    match reply with
    | .error _ => .done (.error (.notCreated name))
    | .ok _ => .note (.databaseCreated name) (.done (.ok true))

lemma createIfMissing_eq_call (name : String) :
    createIfMissing name = .call (.send (.hasDatabase name)) fun reply =>
      createUnless name (reply.one? fun row => row.head? >>= Sql.Value.bool?) := by
  refine congrArg (Program.call _) (funext fun reply => ?_)
  simp only [Program.done_bind]
  rcases Sql.Reply.one? _ reply with _ | _ | _
  · rfl
  · refine congrArg (Program.call _) (funext fun reply => ?_)
    cases reply <;> rfl
  · rfl

section

variable {config : Config} {name : String}

/-- Without a name nothing is asked. -/
lemma ensureExists_of_unnamed (h : config.databaseName? = none) :
    ensureExists config = .done (.error .noName) := by
  rw [ensureExists, h]
  rfl

/-- With a name that might be more than a name nothing is asked. -/
lemma ensureExists_of_odd (h : config.databaseName? = some name)
    (hodd : ∃ c ∈ name.toList, ¬ IsWordChar c) :
    ensureExists config = .done (.error (.badName name)) := by
  have hplain : ¬ name.toList.all isPlain = true := by
    obtain ⟨c, hc, hword⟩ := hodd
    exact fun hall => hword ((isPlain_iff c).1 (List.all_eq_true.1 hall c hc))
  rw [ensureExists, h]
  exact if_neg hplain

lemma ensureExists_of_admits (h : config.Admits name) :
    ensureExists config = .call (.connect config.maintenanceUrl) fun reached =>
      bif reached then createIfMissing name
      else .done (.error (.maintenanceNotReached config.maintenanceUrl)) := by
  have hplain : name.toList.all isPlain = true :=
    List.all_eq_true.2 fun c hc => (isPlain_iff c).2 (h.plain c hc)
  rw [ensureExists, h.named]
  refine (if_pos hplain).trans (congrArg (Program.call _) (funext fun reached => ?_))
  cases reached <;> rfl

lemma ensured (h : config.Admits name) (s : σ) :
    Ensured config.maintenanceUrl name ((ensureExists config).exchanges answer s)
      ((ensureExists config).run answer s).value := by
  rw [ensureExists_of_admits h, exchanges, run]
  rcases answer (.connect config.maintenanceUrl) s with ⟨reached, s₁⟩
  cases reached with
  | false => exact .notReached
  | true =>
    simp only [cond_true, createIfMissing_eq_call, exchanges, run]
    rcases answer (.send (.hasDatabase name)) s₁ with ⟨found, s₂⟩
    rcases hfound : found.one? fun row => row.head? >>= Sql.Value.bool? with _ | _ | _
    · refine .unknown found fun there htells => ?_
      rw [one?_head?_eq_some_iff.2 htells] at hfound
      cases hfound
    · have htells := one?_head?_eq_some_iff.1 hfound
      simp only [createUnless, exchanges, run]
      rcases answer (.send (.createDatabase name)) s₂ with ⟨_ | rows, s₃⟩
      · exact .refused found htells _
      · exact .created found htells rows
    · exact .present found (one?_head?_eq_some_iff.1 hfound)

end

/-! ## What is sent -/

/-- The statement of an exchange, if it is one, with its reply. -/
def statement? : Exchange Answer → Option (Sql.Statement × Sql.Reply)
  | ⟨.send statement, reply⟩ => some (statement, reply)
  | _ => none

/-- The statements that were sent, each with its reply. -/
def sent (asked : List (Exchange Answer)) : List (Sql.Statement × Sql.Reply) :=
  asked.filterMap statement?

lemma mem_sent_iff {asked : List (Exchange Answer)} {statement : Sql.Statement}
    {reply : Sql.Reply} : (statement, reply) ∈ sent asked ↔ ⟨.send statement, reply⟩ ∈ asked := by
  rw [sent, List.mem_filterMap]
  constructor
  · rintro ⟨⟨c, a⟩, hx, hsent⟩
    cases c with
    | send s =>
      obtain ⟨rfl, rfl⟩ := Prod.mk.inj (Option.some.inj hsent)
      exact hx
    | _ => exact nomatch hsent
  · exact fun hx => ⟨_, hx, rfl⟩

namespace Ensured

variable {url name : String} {asked : List (Exchange Answer)} {value : Except Error Bool}

/-- The question for the database comes first, then its creation, and nothing else. -/
lemma statements (h : Ensured url name asked value) :
    (sent asked).map Prod.fst <+: [.hasDatabase name, .createDatabase name] := by
  cases h with
  | notReached => exact List.nil_prefix
  | unknown | present => exact List.prefix_append [_] [_]
  | refused | created => exact List.prefix_rfl

/-- A database is created only where the server has told that it is not there. -/
lemma tells_false (h : Ensured url name asked value) {reply : Sql.Reply}
    (hcreate : (.createDatabase name, reply) ∈ sent asked) :
    ∃ found, (.hasDatabase name, found) ∈ sent asked ∧ Tells found false := by
  cases h with
  | notReached => exact nomatch hcreate
  | unknown | present => simp [sent, statement?] at hcreate
  | refused found tells | created found tells => exact ⟨found, List.mem_cons_self, tells⟩

lemma eq_ok_true_iff (h : Ensured url name asked value) :
    value = .ok true ↔ ∃ rows, (.createDatabase name, .ok rows) ∈ sent asked := by
  cases h <;> simp [sent, statement?]

lemma eq_ok_false_iff (h : Ensured url name asked value) :
    value = .ok false ↔ ∃ found, (.hasDatabase name, found) ∈ sent asked ∧ Tells found true := by
  cases h with
  | notReached => simp [sent, statement?]
  | unknown found silent => simp [sent, statement?, silent]
  | present found tells => simp [sent, statement?, tells]
  | refused found tells => simp [sent, statement?, tells.not_true]
  | created found tells => simp [sent, statement?, tells.not_true]

end Ensured

/-- **No address can put anything but a name into the creation of a database.**  The name is the
parameter of a fixed question, and it becomes a part of a statement only if it is made of letters,
digits and underscores; with any other name, or without one, nothing is asked at all.  The
database is created at most once and only where the server has told that it is not there, and what
comes of that is what the server answered. -/
theorem sends_plain_names_only (config : Config) (s : σ) :
    let asked := (ensureExists config).exchanges answer s
    let value := ((ensureExists config).run answer s).value
    (config.databaseName? = none → asked = [] ∧ value = .error .noName) ∧
    (∀ name, config.databaseName? = some name → (∃ c ∈ name.toList, ¬ IsWordChar c) →
      asked = [] ∧ value = .error (.badName name)) ∧
    ∀ name, config.databaseName? = some name → (∀ c ∈ name.toList, IsWordChar c) →
      name ≠ "" ∧
      (sent asked).map (fun x => (x.1.sql, x.1.parameters)) <+:
        [("SELECT EXISTS(SELECT 1 FROM pg_database WHERE datname = $1)", [.text name]),
          ("CREATE DATABASE " ++ name, [])] ∧
      (∀ reply, (.createDatabase name, reply) ∈ sent asked →
        ∃ found, (.hasDatabase name, found) ∈ sent asked ∧ Tells found false) ∧
      (value = .ok true ↔ ∃ rows, (.createDatabase name, .ok rows) ∈ sent asked) ∧
      (value = .ok false ↔
        ∃ found, (.hasDatabase name, found) ∈ sent asked ∧ Tells found true) := by
  intro asked value
  refine ⟨fun hunnamed => ?_, fun name hnamed hodd => ?_, fun name hnamed hplain => ?_⟩
  · simp only [asked, value, ensureExists_of_unnamed hunnamed]
    exact ⟨rfl, rfl⟩
  · simp only [asked, value, ensureExists_of_odd hnamed hodd]
    exact ⟨rfl, rfl⟩
  · have h : Ensured config.maintenanceUrl name asked value := ensured answer ⟨hnamed, hplain⟩ s
    refine ⟨ne_empty_of_databaseName? hnamed, ?_, fun _ => h.tells_false, h.eq_ok_true_iff,
      h.eq_ok_false_iff⟩
    have htexts := h.statements.map fun statement => (statement.sql, statement.parameters)
    rw [List.map_map] at htexts
    exact htexts

end PaymentPlans.Database
