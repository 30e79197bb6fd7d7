/-
# What values and replies hold

A value is taken for what it is, and rows are decoded into what they are the columns of.
-/
import Mathlib.Tactic.Common
import PaymentPlans.Sql.Statement

namespace PaymentPlans.Sql

/-! ## Values -/

namespace Value

variable {v : Value}

lemma identifier?_eq_some_iff {id : Identifier} : v.identifier? = some id ↔ v = .identifier id := by
  cases v <;> simp [identifier?]

lemma text?_eq_some_iff {s : String} : v.text? = some s ↔ v = .text s := by
  cases v <;> simp [text?]

lemma amount?_eq_some_iff {a : Amount} : v.amount? = some a ↔ v = .amount a := by
  cases v <;> simp [amount?]

lemma instant?_eq_some_iff {i : Instant} : v.instant? = some i ↔ v = .instant i := by
  cases v <;> simp [instant?]

lemma integer?_eq_some_iff {n : Int} : v.integer? = some n ↔ v = .integer n := by
  cases v <;> simp [integer?]

end Value

/-! ## Replies -/

namespace Reply

variable {ρ : Type} {decode : Row → Option ρ} {cells : ρ → Row} {reply : Reply}

/-- The one row that is wanted is the first. -/
lemma one?_eq_some_iff (hdecode : ∀ c row, decode c = some row ↔ c = cells row) {row : ρ} :
    reply.one? decode = some row ↔ ∃ rows, reply = .ok (cells row :: rows) := by
  rcases reply with failure | _ | ⟨c, rows⟩
  · exact iff_of_false nofun fun ⟨_, h⟩ => nomatch h
  · exact iff_of_false nofun fun ⟨_, h⟩ => nomatch h
  · simp [one?, hdecode]

/-- If there is a row, the first is the one. -/
lemma atMostOne?_eq_some_iff (hdecode : ∀ c row, decode c = some row ↔ c = cells row) {row : ρ} :
    reply.atMostOne? decode = some (some row) ↔ ∃ rows, reply = .ok (cells row :: rows) := by
  rcases reply with failure | _ | ⟨c, rows⟩
  · exact iff_of_false nofun fun ⟨_, h⟩ => nomatch h
  · exact iff_of_false nofun fun ⟨_, h⟩ => nomatch h
  · simp [atMostOne?, hdecode]

/-- All rows are decoded exactly if each of them is the columns of what it is decoded into. -/
lemma all?_eq_some_iff (hdecode : ∀ c row, decode c = some row ↔ c = cells row) {rows : List ρ} :
    reply.all? decode = some rows ↔ reply = .ok (rows.map cells) := by
  rcases reply with failure | found
  · exact iff_of_false nofun nofun
  rw [all?, Except.ok.injEq]
  induction found generalizing rows with
  | nil => cases rows <;> simp
  | cons c found ih =>
    rw [List.mapM_cons]
    rcases rows with _ | ⟨row, rows⟩
    · simp [Option.bind_eq_some_iff]
    · simp [Option.bind_eq_some_iff, hdecode, ih]

end Reply

end PaymentPlans.Sql
