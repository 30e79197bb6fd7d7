/-
# What a configuration makes of an address

An address has a scheme, an authority, perhaps a path with one name in it, and perhaps a query.
The name of the database is the one in the path, and the database for maintenance is `postgres`
on the same server.  A configuration does not read an address part by part: it cuts the text at
its last slash.  That slash is the one of the path only if there is a path and no slash in the
query; otherwise it is one of the query, or it is the second one of the scheme, and what comes
out is a piece of the query or the server itself.
-/
import Mathlib.Tactic.Common
import PaymentPlans.Database.Config

namespace PaymentPlans.Database

/-! ## The last slash -/

lemma ne_slash_of_mem_reverse {behind : List Char} (h : '/' ∉ behind) :
    ∀ c ∈ behind.reverse, decide (c ≠ '/') = true := by
  intro c hc
  rw [decide_eq_true_eq]
  rintro rfl
  exact h (List.mem_reverse.1 hc)

lemma lastPart_append {before behind : List Char} (h : '/' ∉ behind) :
    lastPart (before ++ '/' :: behind) = behind := by
  rw [lastPart, List.reverse_append, List.reverse_cons, List.append_assoc,
    List.takeWhile_append_of_pos (ne_slash_of_mem_reverse h)]
  simp

lemma beforeLastSlash?_append {before behind : List Char} (h : '/' ∉ behind) :
    beforeLastSlash? (before ++ '/' :: behind) = some before := by
  rw [beforeLastSlash?, List.reverse_append, List.reverse_cons, List.append_assoc,
    List.dropWhile_append_of_pos (ne_slash_of_mem_reverse h)]
  simp

/-- A text with a slash has a last one. -/
lemma exists_lastSlash {text : String} (h : '/' ∈ text.toList) :
    ∃ front tail, text = front ++ "/" ++ tail ∧ '/' ∉ tail.toList := by
  obtain ⟨tail, front, hsplit, htail⟩ := List.eq_append_cons_of_mem (List.mem_reverse.2 h)
  refine ⟨String.ofList front.reverse, String.ofList tail.reverse, ?_, by simpa using htail⟩
  apply String.toList_inj.1
  simpa using congrArg List.reverse hsplit

/-! ## Names at the end of a text -/

/-- What a text begins with, up to a `?`, if that is a name. -/
def nameOf? (text : String) : Option String :=
  let name := text.toList.takeWhile (· ≠ '?')
  if isName name then some (String.ofList name) else none

lemma isName_iff (cs : List Char) : isName cs ↔ cs ≠ [] ∧ ':' ∉ cs ∧ '@' ∉ cs := by
  simp only [isName, Bool.and_eq_true, Bool.not_eq_true', List.isEmpty_eq_false_iff,
    List.all_eq_true, decide_eq_true_eq]
  refine and_congr_right fun _ => ⟨fun h => ⟨fun hc => (h _ hc).1 rfl, fun hc => (h _ hc).2 rfl⟩, ?_⟩
  rintro ⟨hcolon, hat⟩ c hc
  exact ⟨ne_of_mem_of_not_mem hc hcolon, ne_of_mem_of_not_mem hc hat⟩

/-! ## Addresses -/

/-- A path as it stands in an address. -/
def pathText (path : Option String) : String := path.elim "" ("/" ++ ·)

/-- A query as it stands in an address. -/
def queryText (query : Option String) : String := query.elim "" ("?" ++ ·)

/-- A text without a `?` is what stands before the query behind it. -/
lemma takeWhile_append_queryText {text : String} (h : '?' ∉ text.toList) (query : Option String) :
    (text ++ queryText query).toList.takeWhile (· ≠ '?') = text.toList := by
  have htext : ∀ c ∈ text.toList, decide (c ≠ '?') = true := by
    intro c hc
    simpa using ne_of_mem_of_not_mem hc h
  have hquery : (queryText query).toList.takeWhile (· ≠ '?') = [] := by
    cases query <;> simp [queryText]
  rw [String.toList_append, List.takeWhile_append_of_pos htext, hquery, List.append_nil]

lemma nameOf?_append_queryText {text : String} (h : '?' ∉ text.toList) (query : Option String) :
    nameOf? (text ++ queryText query) = if isName text.toList then some text else none := by
  rw [nameOf?, takeWhile_append_queryText h, String.ofList_toList]

lemma eq_of_append_queryText {text text' : String} (h : '?' ∉ text.toList)
    (h' : '?' ∉ text'.toList) {query query' : Option String}
    (heq : text ++ queryText query = text' ++ queryText query') : text = text' := by
  apply String.toList_inj.1
  rw [← takeWhile_append_queryText h query, heq, takeWhile_append_queryText h']

/-- An address by its parts.  Nothing is asked of the scheme, and a query may hold anything. -/
structure Address where
  scheme : String
  /-- The server: credentials, host and port. -/
  authority : String
  /-- The name in the path, if there is a path. -/
  path : Option String := none
  /-- What stands behind the `?`, if there is one. -/
  query : Option String := none
  authority_ne_empty : authority ≠ "" := by decide
  authority_plain : '/' ∉ authority.toList ∧ '?' ∉ authority.toList := by decide
  path_plain : ∀ name ∈ path, '/' ∉ name.toList ∧ '?' ∉ name.toList := by decide

namespace Address

variable (a : Address) (maxConnections : Nat)

/-- The scheme and the authority of an address. -/
def server : String := a.scheme ++ "://" ++ a.authority

/-- The whole address. -/
def text : String := a.server ++ pathText a.path ++ queryText a.query

/-- A configuration with an address. -/
def config (maxConnections : Nat) : Config := { url := a.text, maxConnections }

/-- The database that an address names: the one in its path, unless it is empty. -/
def database? : Option String := a.path.filter (· ≠ "")

/-- The address of the database for maintenance on the same server. -/
def maintenance (query : Option String) : Address :=
  { a with path := some "postgres", query, path_plain := by decide }

/-- There is no slash in the query. -/
def QueryPlain : Prop := ∀ query ∈ a.query, '/' ∉ query.toList

/-- Where the last slash of an address is, with what stands before it and behind it. -/
inductive Cut : String → String → Prop where
  /-- It is the second slash of `://`. -/
  | scheme (bare : a.path = none) (plain : a.QueryPlain) :
      Cut (a.scheme ++ ":/") (a.authority ++ queryText a.query)
  /-- It is the slash of the path. -/
  | path (name : String) (named : a.path = some name) (plain : a.QueryPlain) :
      Cut a.server (name ++ queryText a.query)
  /-- It is a slash of the query. -/
  | query (front tail : String) (slashed : a.query = some (front ++ "/" ++ tail))
      (last : '/' ∉ tail.toList) :
      Cut (a.server ++ pathText a.path ++ "?" ++ front) tail

variable {a}

lemma exists_cut (a : Address) : ∃ before behind, a.Cut before behind := by
  by_cases hplain : a.QueryPlain
  · rcases hpath : a.path with _ | name
    · exact ⟨_, _, .scheme hpath hplain⟩
    · exact ⟨_, _, .path name hpath hplain⟩
  · simp only [QueryPlain, not_forall, not_not] at hplain
    obtain ⟨query, hquery, hslash⟩ := hplain
    obtain ⟨front, tail, rfl, hlast⟩ := exists_lastSlash hslash
    exact ⟨_, _, .query front tail hquery hlast⟩

lemma Cut.text_eq {before behind : String} (h : a.Cut before behind) :
    a.text = before ++ "/" ++ behind := by
  cases h with
  | scheme bare plain =>
    have hmark : "://" = ":/" ++ "/" := rfl
    simp only [text, server, bare, pathText, Option.elim_none, hmark, String.append_empty,
      String.append_assoc]
  | path name named plain =>
    simp only [text, named, pathText, Option.elim_some, String.append_assoc]
  | query front tail slashed last =>
    simp only [text, slashed, queryText, Option.elim_some, String.append_assoc]

lemma QueryPlain.queryText (h : a.QueryPlain) : '/' ∉ (queryText a.query).toList := by
  rcases hquery : a.query with _ | query
  · exact List.not_mem_nil
  · have hslash := h query hquery
    simpa [Database.queryText] using hslash

lemma Cut.slash_notMem {before behind : String} (h : a.Cut before behind) :
    '/' ∉ behind.toList := by
  cases h with
  | scheme bare plain =>
    rw [String.toList_append, List.mem_append, not_or]
    exact ⟨a.authority_plain.1, plain.queryText⟩
  | path name named plain =>
    rw [String.toList_append, List.mem_append, not_or]
    exact ⟨(a.path_plain name named).1, plain.queryText⟩
  | query front tail slashed last => exact last

lemma Cut.toList_text {before behind : String} (h : a.Cut before behind) :
    a.text.toList = before.toList ++ '/' :: behind.toList := by
  rw [h.text_eq, String.append_assoc, String.toList_append, String.toList_append]
  rfl

/-- The name that a configuration tells is read behind the last slash. -/
lemma Cut.databaseName?_config {before behind : String} (h : a.Cut before behind) :
    (a.config maxConnections).databaseName? = nameOf? behind := by
  rw [config, Config.databaseName?, h.toList_text, lastPart_append h.slash_notMem, nameOf?]

/-- The address for maintenance keeps what stands before the last slash. -/
lemma Cut.maintenanceUrl_config {before behind : String} (h : a.Cut before behind) :
    (a.config maxConnections).maintenanceUrl = before ++ "/postgres" := by
  rw [config, Config.maintenanceUrl, h.toList_text, beforeLastSlash?_append h.slash_notMem]
  simp only [String.ofList_append, String.ofList_toList]

/-- A query is cut at its last slash in one way only. -/
lemma tail_unique {front front' tail tail' : String} (h : '/' ∉ tail.toList)
    (h' : '/' ∉ tail'.toList) (heq : front ++ "/" ++ tail = front' ++ "/" ++ tail') :
    tail = tail' := by
  have hlast := congrArg (fun text : String => lastPart text.toList) heq
  simp only [String.append_assoc, String.toList_append] at hlast
  exact String.toList_inj.1
    ((lastPart_append h).symm.trans (hlast.trans (lastPart_append h')))

lemma not_queryPlain {front tail : String} (h : a.query = some (front ++ "/" ++ tail)) :
    ¬ a.QueryPlain := by
  intro hplain
  refine hplain _ h ?_
  simp

/-! ## The name of the database -/

/-- A name in a path is the name of the database unless it is empty. -/
lemma nameOf?_path {name : String} (h : a.path = some name)
    (hname : ∀ name ∈ a.path, ':' ∉ name.toList ∧ '@' ∉ name.toList) :
    nameOf? (name ++ queryText a.query) = a.database? := by
  rw [nameOf?_append_queryText (a.path_plain name h).2, database?, h, Option.filter_some]
  by_cases hempty : name = ""
  · subst hempty
    rfl
  · rw [if_pos ((isName_iff _).2 ⟨by simpa using hempty, hname name h⟩), if_pos (by simpa)]

/-- An authority is not taken for a name exactly if a mark in it tells that it is none. -/
lemma nameOf?_authority_iff :
    nameOf? (a.authority ++ queryText a.query) = none ↔
      ':' ∈ a.authority.toList ∨ '@' ∈ a.authority.toList := by
  rw [nameOf?_append_queryText a.authority_plain.2, ite_eq_right_iff, isName_iff]
  have hne : a.authority.toList ≠ [] := by simpa using a.authority_ne_empty
  simp only [reduceCtorEq, imp_false, not_and_or, not_not, hne, false_or]

/-- **The name that a configuration tells is the one in the path of its address** exactly if,
where there is no slash in the query, there is a path or the authority shows by a `:` or an `@`
that it is no name; and where there is one, what stands behind the last one reads as that name,
or as none if there is none. -/
theorem tells_database_iff (a : Address) (maxConnections : Nat)
    (h : ∀ name ∈ a.path, ':' ∉ name.toList ∧ '@' ∉ name.toList) :
    (a.config maxConnections).databaseName? = a.database? ↔
      (a.QueryPlain → a.path = none → ':' ∈ a.authority.toList ∨ '@' ∈ a.authority.toList) ∧
        ∀ front tail, a.query = some (front ++ "/" ++ tail) → '/' ∉ tail.toList →
          nameOf? tail = a.database? := by
  obtain ⟨before, behind, hcut⟩ := a.exists_cut
  rw [hcut.databaseName?_config maxConnections]
  cases hcut with
  | scheme bare plain =>
    rw [database?, bare, Option.filter_none, nameOf?_authority_iff]
    exact ⟨fun hmark => ⟨fun _ _ => hmark, fun _ _ hslashed => absurd plain (not_queryPlain hslashed)⟩,
      fun hshown => hshown.1 plain rfl⟩
  | path name named plain =>
    refine iff_of_true (nameOf?_path named h) ⟨fun _ hbare => ?_, fun _ _ hslashed => ?_⟩
    · exact nomatch named.symm.trans hbare
    · exact absurd plain (not_queryPlain hslashed)
  | query front _ slashed last =>
    refine ⟨fun htail => ⟨fun hplain => absurd hplain (not_queryPlain slashed), ?_⟩, ?_⟩
    · rintro front' tail' hslashed hlast
      rw [← tail_unique last hlast (Option.some.inj (slashed.symm.trans hslashed)), htail]
    · exact fun hshown => hshown.2 front _ slashed last

/-- An address whose query ends with the name of its database. -/
def withSocket : Address :=
  { scheme := "postgresql", authority := "app@db.internal:5432", path := some "plans",
    query := some "host=/var/run/plans" }

theorem tells_database_iff_withSocket :
    (∀ name ∈ withSocket.path, ':' ∉ name.toList ∧ '@' ∉ name.toList) ∧
      ((withSocket.config 5).databaseName? = withSocket.database? ↔
        (withSocket.QueryPlain → withSocket.path = none →
          ':' ∈ withSocket.authority.toList ∨ '@' ∈ withSocket.authority.toList) ∧
        ∀ front tail, withSocket.query = some (front ++ "/" ++ tail) → '/' ∉ tail.toList →
          nameOf? tail = withSocket.database?) :=
  ⟨by decide, withSocket.tells_database_iff 5 (by decide)⟩

/-- An address without a path. -/
def bareServer : Address := { scheme := "postgresql", authority := "localhost" }

/-- An address with a file in its query. -/
def withCertificate : Address :=
  { scheme := "postgresql", authority := "localhost:5432", path := some "plans",
    query := some "sslrootcert=/etc/ssl/ca.pem" }

/-- A server without a path is taken for a database, and so is a file in a query. -/
theorem not_tells_database_bareServer :
    bareServer.database? = none ∧ (bareServer.config 5).databaseName? = some "localhost" ∧
      withCertificate.database? = some "plans" ∧
      (withCertificate.config 5).databaseName? = some "ca.pem" := by
  decide

/-! ## The database for maintenance -/

lemma text_maintenance (query : Option String) :
    (a.maintenance query).text = a.server ++ ("/postgres" ++ queryText query) :=
  String.append_assoc

/-- The name of the server alone, cut off behind the scheme, leads to another server. -/
lemma scheme_ne_maintenance (query : Option String) :
    a.scheme ++ ":/" ++ "/postgres" ≠ (a.maintenance query).text := by
  intro heq
  have hmark : ":/" ++ "/postgres" = "://" ++ "postgres" := rfl
  rw [text_maintenance, server, String.append_assoc, hmark, String.append_assoc,
    String.append_assoc, String.append_right_inj, String.append_right_inj] at heq
  -- There is no slash in what is left on the one side.
  have hslash : '/' ∈ "postgres".toList := by
    rw [heq]
    simp
  exact absurd hslash (by decide)

/-- An address that is cut in its query keeps its path. -/
lemma query_eq_maintenance_iff (front : String) :
    (∃ query, a.server ++ pathText a.path ++ "?" ++ front ++ "/postgres" =
        (a.maintenance query).text) ↔ a.path = some "postgres" := by
  have hquery : a.server ++ pathText a.path ++ "?" ++ front ++ "/postgres" =
      a.server ++ (pathText a.path ++ queryText (some (front ++ "/postgres"))) := by
    simp only [queryText, Option.elim_some, String.append_assoc]
  simp only [hquery, text_maintenance, String.append_right_inj]
  rcases hpath : a.path with _ | name
  · -- The one text goes on with a `?`, the other one with a slash.
    refine iff_of_false ?_ nofun
    rintro ⟨query, heq⟩
    have hhead := congrArg (fun text : String => text.toList.head?) heq
    simp [pathText, queryText] at hhead
  · rw [Option.some_inj]
    have hslash : "/postgres" = "/" ++ "postgres" := rfl
    simp only [pathText, Option.elim_some, hslash, String.append_assoc, String.append_right_inj]
    constructor
    · rintro ⟨query, heq⟩
      exact eq_of_append_queryText (a.path_plain name hpath).2 (by decide) heq
    · rintro rfl
      exact ⟨_, rfl⟩

/-- **The address for maintenance is on the same server, with the path `/postgres`,** exactly if
there is a path and either no slash in the query or the path is `/postgres` already. -/
theorem keeps_server_iff (a : Address) (maxConnections : Nat) :
    (∃ query, (a.config maxConnections).maintenanceUrl = (a.maintenance query).text) ↔
      ∃ name, a.path = some name ∧ (a.QueryPlain ∨ name = "postgres") := by
  obtain ⟨before, behind, hcut⟩ := a.exists_cut
  rw [hcut.maintenanceUrl_config maxConnections]
  cases hcut with
  | scheme bare plain =>
    refine iff_of_false (fun ⟨query, heq⟩ => scheme_ne_maintenance query heq) ?_
    rintro ⟨name, hpath, -⟩
    exact nomatch bare.symm.trans hpath
  | path name named plain =>
    exact iff_of_true ⟨none, by simp [text_maintenance, queryText]⟩ ⟨name, named, Or.inl plain⟩
  | query front _ slashed last =>
    rw [query_eq_maintenance_iff]
    refine ⟨fun hpath => ⟨_, hpath, Or.inr rfl⟩, ?_⟩
    rintro ⟨name, hpath, hplain | rfl⟩
    · exact absurd hplain (not_queryPlain slashed)
    · exact hpath

/-- Without a path the address for maintenance is on another server, and with a file in the query
its path is still the one of the database. -/
theorem not_keeps_server_bareServer :
    (bareServer.config 5).maintenanceUrl =
        ({ scheme := "postgresql", authority := "postgres" } : Address).text ∧
      (∀ query, (bareServer.config 5).maintenanceUrl ≠ (bareServer.maintenance query).text) ∧
      (withCertificate.config 5).maintenanceUrl =
        { withCertificate with query := some "sslrootcert=/etc/ssl/postgres" }.text := by
  have hcut : bareServer.Cut _ _ := .scheme rfl nofun
  refine ⟨by decide, fun query => ?_, by decide⟩
  rw [hcut.maintenanceUrl_config]
  exact scheme_ne_maintenance query

end Address

end PaymentPlans.Database
