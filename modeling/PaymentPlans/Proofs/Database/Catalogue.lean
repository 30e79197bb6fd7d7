/-
# Which database is created

A server compares a name that it is given as a parameter as it is, but it reads a name that stands
in a statement without quotes with its capitals made small.  So a name with a capital is looked
for as it is and created in small letters: the database that is then there is another one, and it
is not found when it is looked for again.
-/
import Mathlib.Data.List.TakeWhile
import PaymentPlans.Proofs.Database.Bootstrap

namespace PaymentPlans.Database

open Program (Exchange run exchanges)

variable {σ : Type} {answer : (c : Call) → σ → Answer c × σ}

/-! ## Names in statements -/

lemma toLower_eq_self_iff (c : Char) : c.toLower = c ↔ ¬ c.isUpper := by
  by_cases h : c.isUpper
  · have hlower : c.toLower.val = c.val + 32 := congrArg Char.val (dif_pos (of_decide_eq_true h))
    refine iff_of_false (fun hsame => ?_) (not_not_intro h)
    rw [hsame] at hlower
    simp at hlower
  · exact iff_of_true (dif_neg (mt decide_eq_true h)) h

/-- A name is the same in small letters exactly if it has no capitals. -/
lemma name_toLower_eq_self_iff (name : String) :
    name.toLower = name ↔ ∀ c ∈ name.toList, ¬ c.isUpper := by
  have hlower : name.toLower.toList = name.toList.map Char.toLower := String.toList_map
  rw [← String.toList_inj, hlower]
  nth_rewrite 2 [← List.map_id name.toList]
  rw [List.map_inj_left]
  simp only [toLower_eq_self_iff, id_eq]

/-- The database that a statement is to create, as a server reads the text of the statement: the
name goes as far as there are letters, digits and underscores, and without quotes its capitals are
read as small letters. -/
def created? (statement : Sql.Statement) : Option String :=
  ("CREATE DATABASE ".toList.isPrefixOf? statement.sql.toList).map fun rest =>
    (String.ofList (rest.takeWhile fun c => IsWordChar c)).toLower

lemma created?_createDatabase {name : String} (h : ∀ c ∈ name.toList, IsWordChar c) :
    created? (.createDatabase name) = some name.toLower := by
  have hsql : (Sql.Statement.createDatabase name).sql.toList =
      "CREATE DATABASE ".toList ++ name.toList := String.toList_append
  have hrest : "CREATE DATABASE ".toList.isPrefixOf? ("CREATE DATABASE ".toList ++ name.toList) =
      some name.toList := rfl
  have hname : name.toList.takeWhile (fun c => decide (IsWordChar c)) = name.toList :=
    List.takeWhile_eq_self_iff.2 fun c hc => decide_eq_true (h c hc)
  rw [created?, hsql, hrest, Option.map_some, hname, String.ofList_toList]

lemma created?_hasDatabase (name : String) : created? (.hasDatabase name) = none := by
  have hrest : "CREATE DATABASE ".toList.isPrefixOf?
      "SELECT EXISTS(SELECT 1 FROM pg_database WHERE datname = $1)".toList = none := by decide
  exact congrArg (Option.map _) hrest

/-! ## Servers -/

/-- A call created a database, the one that the server reads in the statement. -/
def Creates (name : String) : Exchange Answer → Prop
  | ⟨.send statement, .ok _⟩ => created? statement = some name
  | _ => False

/-- A server that knows which databases are there. -/
structure Catalogue (answer : (c : Call) → σ → Answer c × σ) (databases : σ → List String) :
    Prop where
  /-- If it tells whether a database is there, it compares the name as it is. -/
  told : ∀ name s there, Tells (answer (.send (.hasDatabase name)) s).1 there →
    (there = true ↔ name ∈ databases s)
  /-- After a call a database is there if it was there before or the call created it. -/
  grown : ∀ name c s, name ∈ databases (answer c s).2 ↔
    name ∈ databases s ∨ Creates name ⟨c, (answer c s).1⟩

namespace Catalogue

variable {databases : σ → List String} (h : Catalogue answer databases)
include h

/-- After a run a database is there if it was there before or a call of the run created it. -/
lemma mem_run_iff {α : Type} (name : String) (p : DatabaseProgram α) (s : σ) :
    name ∈ databases (p.run answer s).state ↔
      name ∈ databases s ∨ ∃ x ∈ p.exchanges answer s, Creates name x := by
  induction p generalizing s with
  | done a => simp [run, exchanges]
  | note n next ih => exact ih s
  | call c next ih =>
    rw [run, exchanges, ih, h.grown, or_assoc]
    simp only [List.mem_cons, exists_eq_or_imp]

/-- When a call of a run is answered a database is there if it was there before or an earlier call
created it. -/
lemma exists_answer {α : Type} {p : DatabaseProgram α} {s : σ} {front later : List (Exchange Answer)}
    {c : Call} {a : Answer c} (hasked : p.exchanges answer s = front ++ ⟨c, a⟩ :: later) :
    ∃ s', (answer c s').1 = a ∧
      ∀ name, name ∈ databases s' ↔ name ∈ databases s ∨ ∃ x ∈ front, Creates name x := by
  induction p generalizing s front with
  | done b => exact absurd hasked.symm (by simp [exchanges])
  | note n next ih => exact ih hasked
  | call c' next ih =>
    rw [exchanges] at hasked
    rcases front with _ | ⟨x, front⟩
    · obtain ⟨hcall, -⟩ := List.cons.inj hasked
      obtain ⟨rfl, hreply⟩ := Sigma.mk.inj hcall
      exact ⟨s, eq_of_heq hreply, fun name => by simp⟩
    · obtain ⟨rfl, hlater⟩ := List.cons.inj hasked
      obtain ⟨s', hreply, hmem⟩ := ih _ hlater
      refine ⟨s', hreply, fun name => ?_⟩
      rw [hmem, h.grown, or_assoc]
      simp only [List.mem_cons, exists_eq_or_imp]

end Catalogue

/-! ## Looking for a database and creating it -/

/-- Where anything is sent there is a database that may be created. -/
lemma exists_admits_of_sent {config : Config} {s : σ} {x : Sql.Statement × Sql.Reply}
    (hx : x ∈ sent ((ensureExists config).exchanges answer s)) : ∃ name, config.Admits name := by
  rcases hnamed : config.databaseName? with _ | name
  · rw [ensureExists_of_unnamed hnamed] at hx
    exact nomatch hx
  · refine ⟨name, hnamed, fun c hc => ?_⟩
    by_contra hword
    rw [ensureExists_of_odd hnamed ⟨c, hc, hword⟩] at hx
    exact nomatch hx

namespace Ensured

variable {url name : String} {asked : List (Exchange Answer)} {value : Except Error Bool}

/-- The database is looked for first of all, under its name as it is. -/
lemma lookedFor (h : Ensured url name asked value) {other : String} {found : Sql.Reply}
    (hsent : (.hasDatabase other, found) ∈ sent asked) : other = name ∧ ∃ later,
      asked = [⟨.connect url, true⟩] ++ ⟨.send (.hasDatabase name), found⟩ :: later := by
  cases h with
  | notReached => exact nomatch hsent
  | unknown found' | present found' | refused found' | created found' =>
    obtain ⟨rfl, rfl⟩ : name = other ∧ found' = found := by
      simpa [sent, statement?] using hsent
    exact ⟨rfl, _, rfl⟩

/-- What is created is the database whose name the server reads. -/
lemma created?_eq (h : Ensured url name asked value) (hplain : ∀ c ∈ name.toList, IsWordChar c)
    {statement : Sql.Statement} {reply : Sql.Reply} {created : String}
    (hsent : (statement, reply) ∈ sent asked) (hcreated : created? statement = some created) :
    created = name.toLower := by
  have hstatement := h.statements.subset (List.mem_map_of_mem hsent)
  simp only [List.mem_cons, List.not_mem_nil, or_false] at hstatement
  rcases hstatement with rfl | rfl
  · exact nomatch (created?_hasDatabase name).symm.trans hcreated
  · exact Option.some.inj (hcreated.symm.trans (created?_createDatabase hplain))

end Ensured

/-- Only a database that may be created is looked for. -/
lemma admits_of_lookedFor {config : Config} {s : σ} {name : String} {found : Sql.Reply}
    (h : (.hasDatabase name, found) ∈ sent ((ensureExists config).exchanges answer s)) :
    config.Admits name := by
  obtain ⟨name', hadmits⟩ := exists_admits_of_sent h
  obtain ⟨rfl, -⟩ := (ensured answer hadmits s).lookedFor h
  exact hadmits

namespace Catalogue

variable {databases : σ → List String} (h : Catalogue answer databases)
variable {config : Config} {s : σ} {name : String}
include h

/-- The server tells whether the database was there before, under its name as it is. -/
lemma tells_iff {found : Sql.Reply} {there : Bool}
    (hsent : (.hasDatabase name, found) ∈ sent ((ensureExists config).exchanges answer s))
    (htells : Tells found there) : there = true ↔ name ∈ databases s := by
  have hensured := ensured answer (admits_of_lookedFor hsent) s
  obtain ⟨-, later, hasked⟩ := hensured.lookedFor hsent
  obtain ⟨s', rfl, hsame⟩ := h.exists_answer hasked
  rw [h.told name s' there htells, hsame]
  simp [Creates]

/-- After a database was created, one is there under the name exactly if it has no capitals. -/
lemma mem_state_iff (hadmits : config.Admits name)
    (hvalue : ((ensureExists config).run answer s).value = .ok true) :
    name ∈ databases ((ensureExists config).run answer s).state ↔
      ∀ c ∈ name.toList, ¬ c.isUpper := by
  have hensured := ensured answer hadmits s
  obtain ⟨rows, hcreate⟩ := hensured.eq_ok_true_iff.1 hvalue
  obtain ⟨found, hfound, htells⟩ := hensured.tells_false hcreate
  have hnew : name ∉ databases s := fun hmem => nomatch (h.tells_iff hfound htells).2 hmem
  rw [h.mem_run_iff, or_iff_right hnew, ← name_toLower_eq_self_iff]
  constructor
  · rintro ⟨⟨c, reply⟩, hx, hcreates⟩
    cases c with
    | connect url => exact hcreates.elim
    | migrate => exact hcreates.elim
    | send statement =>
      rcases reply with failure | rows
      · exact hcreates.elim
      · exact (hensured.created?_eq hadmits.plain (mem_sent_iff.2 hx) hcreates).symm
  · intro hlower
    refine ⟨_, mem_sent_iff.1 hcreate, ?_⟩
    rw [Creates, created?_createDatabase hadmits.plain, hlower]

end Catalogue

/-- **The database that is created is the one that was looked for exactly if its name has no
capitals.**  Only then is it found when it is looked for again after it was created. -/
theorem creates_lookedFor_iff (config : Config) (s : σ) :
    let asked := (ensureExists config).exchanges answer s
    let first := (ensureExists config).run answer s
    let again := (ensureExists config).exchanges answer first.state
    (∀ name found statement reply created, (.hasDatabase name, found) ∈ sent asked →
      (statement, reply) ∈ sent asked → created? statement = some created →
      (created = name ↔ ∀ c ∈ name.toList, ¬ c.isUpper)) ∧
    ∀ databases, Catalogue answer databases → first.value = .ok true →
      ∀ name found there, (.hasDatabase name, found) ∈ sent again → Tells found there →
        (there = true ↔ ∀ c ∈ name.toList, ¬ c.isUpper) := by
  intro asked first again
  constructor
  · intro name found statement reply created hlooked hsent hcreated
    have hadmits := admits_of_lookedFor hlooked
    have hensured := ensured answer hadmits s
    rw [hensured.created?_eq hadmits.plain hsent hcreated, name_toLower_eq_self_iff]
  · intro databases hcatalogue hvalue name found there hlooked htells
    have hadmits := admits_of_lookedFor hlooked
    rw [hcatalogue.tells_iff hlooked htells, hcatalogue.mem_state_iff hadmits hvalue]

/-! ## A server with a list of names -/

/-- What a server that keeps the names of its databases finds in them. -/
def rowsOf (names : List String) : Sql.Statement → List Sql.Row
  | .hasDatabase name => [[.bool (names.contains name)]]
  | _ => []

/-- A server that keeps the names of its databases and nothing else. -/
def keepingNames : (c : Call) → List String → Answer c × List String
  | .connect _, names => (true, names)
  | .migrate, names => (true, names)
  | .send statement, names =>
    match created? statement with
    | none => (.ok (rowsOf names statement), names)
    | some name => if name ∈ names then (.error ⟨"already exists"⟩, names) else (.ok [], name :: names)

lemma keepingNames_of_none {statement : Sql.Statement} (h : created? statement = none)
    (names : List String) :
    keepingNames (.send statement) names = (.ok (rowsOf names statement), names) := by
  simp only [keepingNames, h]

lemma keepingNames_of_some {statement : Sql.Statement} {name : String}
    (h : created? statement = some name) (names : List String) :
    keepingNames (.send statement) names =
      if name ∈ names then (.error ⟨"already exists"⟩, names) else (.ok [], name :: names) := by
  simp only [keepingNames, h]

/-- Such a server does what is expected of one. -/
lemma catalogue_keepingNames : Catalogue keepingNames id where
  told name names there htells := by
    rw [keepingNames_of_none (created?_hasDatabase name)] at htells
    have hfound : Tells (.ok (rowsOf names (.hasDatabase name))) (names.contains name) :=
      ⟨[], [], rfl⟩
    rw [htells.unique hfound]
    exact List.contains_iff_mem
  grown name c names := by
    cases c with
    | connect url => exact (or_iff_left not_false).symm
    | migrate => exact (or_iff_left not_false).symm
    | send statement =>
      rcases hcreated : created? statement with _ | created
      · rw [keepingNames_of_none hcreated]
        simp [Creates, hcreated]
      · rw [keepingNames_of_some hcreated]
        split
        · exact (or_iff_left not_false).symm
        · simp [Creates, hcreated, eq_comm, or_comm]

/-- A configuration with a capital in the name of its database. -/
def capitalised : Config := { url := "postgresql://localhost:5432/PayLater" }

/-- The database `PayLater` is looked for and `paylater` is created; so `PayLater` is not there the
next time either, and cannot be created. -/
theorem not_creates_lookedFor_capitalised :
    let first := (ensureExists capitalised).run keepingNames ["postgres"]
    Catalogue keepingNames id ∧
      sent ((ensureExists capitalised).exchanges keepingNames ["postgres"]) =
        [(.hasDatabase "PayLater", .ok [[.bool false]]), (.createDatabase "PayLater", .ok [])] ∧
      created? (.createDatabase "PayLater") = some "paylater" ∧
      first.value = .ok true ∧ first.state = ["paylater", "postgres"] ∧
      sent ((ensureExists capitalised).exchanges keepingNames first.state) =
        [(.hasDatabase "PayLater", .ok [[.bool false]]),
          (.createDatabase "PayLater", .error ⟨"already exists"⟩)] ∧
      ((ensureExists capitalised).run keepingNames first.state).value =
        .error (.notCreated "PayLater") := by
  refine ⟨catalogue_keepingNames, ?_⟩
  decide +kernel

end PaymentPlans.Database
