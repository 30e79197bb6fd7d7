/-
# The keys of users

A user is given by a key, which is a text that a person may have typed.  The key stands for an
identifier if it is one of the texts of the identifier with blanks around it, and then to list the
plans by the key is to list them by the identifier.  Any other key is refused as it stands, and the
database is not asked.  The prefix of a text may be in capital letters as well as its digits.
-/
import Mathlib.Data.List.TakeWhile
import PaymentPlans.Proofs.Identifier.Written
import PaymentPlans.Proofs.Traversal
import PaymentPlans.Relational.Repository

namespace PaymentPlans

/-! ## Blanks around a text -/

namespace Text

variable {cs : List Char}

/-- Only blanks are taken off a text. -/
lemma exists_around_trim (cs : List Char) : ∃ before behind, cs = before ++ (trim cs ++ behind) ∧
    (∀ c ∈ before, isBlank c = true) ∧ ∀ c ∈ behind, isBlank c = true := by
  let rest := cs.dropWhile isBlank
  have hsplit : cs = cs.takeWhile isBlank ++ rest := List.takeWhile_append_dropWhile.symm
  have hrest : rest = trim cs ++ (rest.reverse.takeWhile isBlank).reverse := by
    rw [trim, trimEnd, ← List.reverse_append, List.takeWhile_append_dropWhile, List.reverse_reverse]
  refine ⟨cs.takeWhile isBlank, (rest.reverse.takeWhile isBlank).reverse, ?_, ?_, ?_⟩
  · rw [← hrest, ← hsplit]
  · exact fun c hc => List.mem_takeWhile_imp hc
  · exact fun c hc => List.mem_takeWhile_imp (List.mem_reverse.1 hc)

/-- All blanks in front of a text that starts without one are dropped. -/
lemma dropWhile_front {before : List Char} (hbefore : ∀ c ∈ before, isBlank c = true)
    (hfirst : ∀ c, cs.head? = some c → isBlank c = false) :
    (before ++ cs).dropWhile isBlank = cs := by
  induction before with
  | nil =>
    cases cs with
    | nil => rfl
    | cons c cs => exact List.dropWhile_cons_of_neg (by simp [hfirst c rfl])
  | cons b before ih =>
    rw [List.forall_mem_cons] at hbefore
    rw [List.cons_append, List.dropWhile_cons_of_pos hbefore.1, ih hbefore.2]

/-- All blanks around a text without blanks are taken off. -/
lemma trim_around {before behind : List Char} (hbefore : ∀ c ∈ before, isBlank c = true)
    (hbehind : ∀ c ∈ behind, isBlank c = true) (hcs : ∀ c ∈ cs, isBlank c = false)
    (hsome : cs ≠ []) : trim (before ++ (cs ++ behind)) = cs := by
  have hfront : (before ++ (cs ++ behind)).dropWhile isBlank = cs ++ behind := by
    obtain ⟨first, rest, rfl⟩ := List.exists_cons_of_ne_nil hsome
    refine dropWhile_front hbefore fun c hc => hcs c ?_
    rw [List.cons_append, List.head?_cons, Option.some_inj] at hc
    exact hc ▸ List.mem_cons_self
  have hback : (behind.reverse ++ cs.reverse).dropWhile isBlank = cs.reverse := by
    refine dropWhile_front (fun c hc => hbehind c (List.mem_reverse.1 hc)) fun c hc => hcs c ?_
    exact List.mem_reverse.1 (List.mem_of_mem_head? hc)
  rw [trim, hfront, trimEnd, List.reverse_append, hback, List.reverse_reverse]

end Text

/-! ## Texts that stand for identifiers -/

namespace Identifier

/-- A character of a text of an identifier. -/
lemma IsDigit.not_blank {c : Char} {d : Fin 16} (h : IsDigit c d) : Text.isBlank c = false := by
  have hall : ∀ d : Fin 16, Text.isBlank (digitChar d) = false ∧
      Text.isBlank (digitChar d).toUpper = false := by decide
  rcases h with rfl | rfl
  · exact (hall d).1
  · exact (hall d).2

lemma Spells.not_blank {cs : List Char} {ds : List (Fin 16)} (h : Spells cs ds) :
    ∀ c ∈ cs, Text.isBlank c = false := by
  induction h with
  | nil => exact List.forall_mem_nil _
  | cons hd _ ih => exact List.forall_mem_cons.2 ⟨hd.not_blank, ih⟩

lemma Groups.not_blank {cs : List Char} {dss : List (List (Fin 16))} (h : Groups cs dss) :
    ∀ c ∈ cs, Text.isBlank c = false := by
  induction h with
  | last h => exact h.not_blank
  | next h _ ih =>
    rw [List.forall_mem_append, List.forall_mem_cons]
    exact ⟨h.not_blank, by decide, ih⟩

/-- A letter is no blank if the small letter is none. -/
lemma not_blank_of_toLower {c : Char} (h : Text.isBlank c.toLower = false) :
    Text.isBlank c = false := by
  unfold Char.toLower at h
  split at h
  · next hupper =>
    have hlow : 65 ≤ c.toNat := UInt32.le_iff_toNat_le.1 hupper.1
    have hhigh : c.toNat ≤ 90 := UInt32.le_iff_toNat_le.1 hupper.2
    simp only [Text.isBlank, Bool.or_eq_false_iff, Bool.and_eq_false_iff, decide_eq_false_iff_not,
      beq_eq_false_iff_ne]
    omega
  · exact h

lemma IsText.not_blank {id : Identifier} {cs : List Char} (h : IsText IsUrnPrefix id cs) :
    ∀ c ∈ cs, Text.isBlank c = false := by
  cases h with
  | run h => exact h.not_blank
  | grouped h => exact h.not_blank
  | braced h =>
    rw [List.forall_mem_cons, List.forall_mem_append, List.forall_mem_singleton]
    exact ⟨by decide, h.not_blank, by decide⟩
  | @urn start _ hstart h =>
    rw [List.forall_mem_append]
    refine ⟨fun c hc => not_blank_of_toLower ?_, h.not_blank⟩
    have hlower : start.map Char.toLower = urnPrefix := hstart
    exact (urnPrefix_plain _ (hlower ▸ List.mem_map_of_mem hc)).2

/-- A text of an identifier is what is left when the blanks around it are taken off. -/
lemma IsText.trim_around {id : Identifier} {cs : List Char} (h : IsText IsUrnPrefix id cs)
    {before behind : List Char} (hbefore : ∀ c ∈ before, Text.isBlank c = true)
    (hbehind : ∀ c ∈ behind, Text.isBlank c = true) :
    Text.trim (before ++ (cs ++ behind)) = cs := by
  have hsome : cs ≠ [] := by
    rintro rfl
    exact absurd h.byteCount_mem (by decide)
  exact Text.trim_around hbefore hbehind h.not_blank hsome

/-- A text stands for an identifier: it is one of the texts of it, with one of these prefixes or
none, and with blanks around it. -/
def StandsFor (IsPrefix : List Char → Prop) (text : String) (id : Identifier) : Prop :=
  ∃ before cs behind, text.toList = before ++ (cs ++ behind) ∧
    (∀ c ∈ before, Text.isBlank c = true) ∧ (∀ c ∈ behind, Text.isBlank c = true) ∧
    IsText IsPrefix id cs

/-- The written form of an identifier stands for it. -/
lemma standsFor_text (id : Identifier) : StandsFor IsUrnPrefix id.text id :=
  ⟨[], id.chars, [], by rw [text, String.toList_ofList, List.append_nil, List.nil_append],
    List.forall_mem_nil _, List.forall_mem_nil _, isText_chars id⟩

lemma ofText_eq_ok_iff {text : String} {id : Identifier} :
    ofText text = .ok id ↔ StandsFor IsUrnPrefix text id := by
  rw [ofText, ofChars_eq_ok_iff]
  constructor
  · intro h
    obtain ⟨before, behind, htext, hbefore, hbehind⟩ := Text.exists_around_trim text.toList
    exact ⟨before, _, behind, htext, hbefore, hbehind, h⟩
  · rintro ⟨before, cs, behind, htext, hbefore, hbehind, h⟩
    rwa [htext, h.trim_around hbefore hbehind]

end Identifier

/-! ## Keys -/

namespace Relational

open Identifier (IsText IsUrnPrefix StandsFor ofText_eq_ok_iff urnPrefix)

lemma readIdentifier_eq_ok_iff {text : String} {id : Identifier} :
    readIdentifier text = .ok id ↔ StandsFor IsUrnPrefix text id := by
  rw [← ofText_eq_ok_iff, readIdentifier, mapError_eq_ok]

/-- What a key should be read as, if the texts of identifiers may have these prefixes. -/
structure ReadAsItStands (IsPrefix : List Char → Prop) (key : String) : Prop where
  /-- The key is read as an identifier exactly if it stands for it. -/
  ok_iff : ∀ id, readIdentifier key = .ok id ↔ StandsFor IsPrefix key id
  /-- It stands for no two identifiers. -/
  unique : ∀ id id', StandsFor IsPrefix key id → StandsFor IsPrefix key id' → id = id'
  /-- What it stands for is read back from its written form, and to list plans by the key is to list
  them by the identifier. -/
  listed : ∀ id, StandsFor IsPrefix key id →
    readIdentifier id.text = .ok id ∧ listPlansByKey key = listPlans id
  /-- A key that stands for no identifier is refused as it was given, and nothing is sent. -/
  refused : (∀ id, ¬ StandsFor IsPrefix key id) → ∃ fault,
    readIdentifier key = .error (.badIdentifier key fault) ∧
    listPlansByKey key = .done (.error (.badIdentifier key fault))

/-- **A key is read as an identifier exactly if it stands for it**, in any of the four texts of the
identifier, with blanks around it, and with digits and the letters of the prefix in either case.  No
key stands for two identifiers, and what a key is read as is read back from its written form.  To
list plans by a key is then to list them by the identifier; any other key is refused as it was given,
and nothing is sent. -/
theorem keys_stand_for_identifiers (key : String) : ReadAsItStands IsUrnPrefix key := by
  constructor
  case ok_iff => exact fun id => readIdentifier_eq_ok_iff
  case unique =>
    intro id id' h h'
    rw [← readIdentifier_eq_ok_iff] at h h'
    exact Except.ok.inj (h.symm.trans h')
  case listed =>
    intro id h
    rw [← readIdentifier_eq_ok_iff] at h
    refine ⟨readIdentifier_eq_ok_iff.2 (Identifier.standsFor_text id), ?_⟩
    rw [listPlansByKey, h]
  case refused =>
    intro hnone
    rcases hread : Identifier.ofText key with fault | id
    · have hrefused : readIdentifier key = .error (.badIdentifier key fault) := by
        rw [readIdentifier, hread]
        rfl
      refine ⟨fault, hrefused, ?_⟩
      rw [listPlansByKey, hrefused]
      rfl
    · exact absurd (ofText_eq_ok_iff.1 hread) (hnone id)

/-- A text of an identifier with its prefix in capital letters. -/
def capitalKey : String := "URN:UUID:67e55044-10b1-426f-9247-bb680e5fe0c8"

/-- Such a text is read as the identifier too, although only digits may be of either case in the
texts of identifiers if their prefix has to be in small letters. -/
theorem capitalKey_not_readAsItStands : ¬ ReadAsItStands (· = urnPrefix) capitalKey := by
  intro h
  have haccepted : ((readIdentifier capitalKey).toOption).isSome := by decide
  rcases hread : readIdentifier capitalKey with error | id
  · rw [hread] at haccepted
    cases haccepted
  obtain ⟨before, cs, behind, hkey, hbefore, hbehind, htext⟩ := (h.ok_iff id).1 hread
  have hany : IsText IsUrnPrefix id cs := htext.mono (by rintro _ rfl; rfl)
  have htrim : Text.trim capitalKey.toList = capitalKey.toList := by decide
  have hcs : capitalKey.toList = cs := by rw [← htrim, hkey, hany.trim_around hbefore hbehind]
  -- The key has the length of a text with a prefix, and does not begin like one.
  have hbytes : Text.byteCount capitalKey.toList = 45 := by decide
  rw [hcs] at hbytes
  have hhead : capitalKey.toList.head? = some 'U' := by decide
  rw [hcs] at hhead
  cases htext with
  | run h => exact absurd (h.byteCount_eq.trans id.length_digits) (by rw [hbytes]; decide)
  | grouped h => exact absurd (Identifier.byteCount_of_groups h) (by rw [hbytes]; decide)
  | braced h =>
    rw [List.head?_cons, Option.some_inj] at hhead
    exact absurd hhead (by decide)
  | @urn start rest hstart h =>
    subst hstart
    have hfirst : (urnPrefix ++ rest).head? = some 'u' := rfl
    rw [hfirst, Option.some_inj] at hhead
    exact absurd hhead (by decide)

end Relational

end PaymentPlans
