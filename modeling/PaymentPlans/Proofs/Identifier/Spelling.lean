/-
# Characters that spell digits

Characters in which nothing is out of place are groups of digits with hyphens between them, the
letters of either case.  How many digits are in which group is all that can be wrong with them then.
-/
import Mathlib.Data.List.Flatten
import Mathlib.Tactic.Common
import PaymentPlans.Identifier.Reader

namespace PaymentPlans.Identifier

open Text (byteCount)

/-! ## Spelling digits -/

/-- A character is a digit, with a letter of either case. -/
def IsDigit (c : Char) (d : Fin 16) : Prop := c = digitChar d ∨ c = (digitChar d).toUpper

lemma hexDigit?_hyphen : hexDigit? '-' = none := by decide

/-- A hexadecimal digit is one byte. -/
lemma utf8Size_of_hexDigit? {c : Char} {d : Fin 16} (h : hexDigit? c = some d) :
    c.utf8Size = 1 := by
  have hsmall : c ≤ 'f' := by
    unfold hexDigit? at h
    split at h
    · next hdigit => exact Char.le_trans hdigit.2 (by decide)
    split at h
    · next hlower => exact hlower.2
    split at h
    · next hupper => exact Char.le_trans hupper.2 (by decide)
    · exact nomatch h
  rw [Char.utf8Size_eq_one_iff]
  exact UInt32.le_trans hsmall (by decide)

lemma hexDigit?_eq_some_iff {c : Char} {d : Fin 16} : hexDigit? c = some d ↔ IsDigit c d := by
  constructor
  · intro h
    have hsmall : c.toNat < 128 := by
      have hbyte := utf8Size_of_hexDigit? h
      rw [Char.utf8Size_eq_one_iff] at hbyte
      exact Nat.lt_succ_of_le hbyte
    have hall : ∀ n : Fin 128, ∀ d : Fin 16, hexDigit? (Char.ofNat n) = some d →
        Char.ofNat n = digitChar d ∨ Char.ofNat n = (digitChar d).toUpper := by decide +kernel
    rw [← Char.ofNat_toNat c] at h ⊢
    exact hall ⟨c.toNat, hsmall⟩ d h
  · have hall : ∀ d : Fin 16, hexDigit? (digitChar d) = some d ∧
        hexDigit? (digitChar d).toUpper = some d := by decide
    rintro (rfl | rfl)
    · exact (hall d).1
    · exact (hall d).2

lemma IsDigit.hexDigit?_eq {c : Char} {d : Fin 16} (h : IsDigit c d) : hexDigit? c = some d :=
  hexDigit?_eq_some_iff.2 h

/-- Characters are the digits of a number, in either case. -/
abbrev Spells : List Char → List (Fin 16) → Prop := List.Forall₂ IsDigit

section

variable {cs : List Char} {ds : List (Fin 16)}

lemma Spells.byteCount_eq (h : Spells cs ds) : byteCount cs = ds.length := by
  induction h with
  | nil => rfl
  | cons hd _ ih =>
    rw [Text.byteCount_cons, utf8Size_of_hexDigit? hd.hexDigit?_eq, ih, List.length_cons,
      Nat.add_comm]

lemma Spells.filterMap_eq (h : Spells cs ds) : cs.filterMap hexDigit? = ds := by
  induction h with
  | nil => rfl
  | cons hd _ ih => rw [List.filterMap_cons_some hd.hexDigit?_eq, ih]

/-- No digit is out of place. -/
lemma Spells.strayFrom_eq (h : Spells cs ds) (byte : Nat) (rest : List Char) :
    strayFrom byte (cs ++ rest) = strayFrom (byte + ds.length) rest := by
  induction h generalizing byte with
  | nil => rfl
  | cons hd _ ih =>
    rw [List.cons_append, strayFrom, if_pos (Or.inr (by rw [hd.hexDigit?_eq]; rfl)), ih,
      utf8Size_of_hexDigit? hd.hexDigit?_eq, List.length_cons, Nat.add_right_comm, Nat.add_assoc]

lemma IsDigit.ne_hyphen {c : Char} {d : Fin 16} (h : IsDigit c d) : c ≠ '-' := by
  rintro rfl
  exact nomatch hexDigit?_hyphen.symm.trans h.hexDigit?_eq

lemma Spells.groupLengths_eq (h : Spells cs ds) : groupLengths cs = [ds.length] := by
  induction h with
  | nil => rfl
  | cons hd _ ih => rw [groupLengths, if_neg hd.ne_hyphen, ih, List.length_cons]

lemma Spells.groupLengths_hyphen (h : Spells cs ds) (rest : List Char) :
    groupLengths (cs ++ '-' :: rest) = ds.length :: groupLengths rest := by
  induction h with
  | nil => rfl
  | cons hd _ ih => rw [List.cons_append, groupLengths, if_neg hd.ne_hyphen, ih, List.length_cons]

end

/-! ## Groups of digits -/

/-- Characters are groups of digits, with hyphens between the groups. -/
inductive Groups : List Char → List (List (Fin 16)) → Prop where
  | last {cs : List Char} {ds : List (Fin 16)} (h : Spells cs ds) : Groups cs [ds]
  | next {cs cs' : List Char} {ds : List (Fin 16)} {dss : List (List (Fin 16))} (h : Spells cs ds)
      (rest : Groups cs' dss) : Groups (cs ++ '-' :: cs') (ds :: dss)

namespace Groups

variable {cs : List Char} {dss : List (List (Fin 16))}

lemma ne_nil (h : Groups cs dss) : dss ≠ [] := by cases h <;> exact List.cons_ne_nil _ _

lemma byteCount_eq (h : Groups cs dss) :
    byteCount cs + 1 = dss.flatten.length + dss.length := by
  have hhyphen : '-'.utf8Size = 1 := by decide
  induction h with
  | last h => rw [h.byteCount_eq, List.flatten_singleton, List.length_singleton]
  | next h _ ih =>
    rw [Text.byteCount_append, Text.byteCount_cons, h.byteCount_eq, hhyphen, List.flatten_cons,
      List.length_append, List.length_cons]
    omega

lemma strayFrom_eq (h : Groups cs dss) (byte : Nat) : strayFrom byte cs = none := by
  have hhyphen : ∀ byte rest, strayFrom byte ('-' :: rest) = strayFrom (byte + '-'.utf8Size) rest :=
    fun _ _ => rfl
  induction h generalizing byte with
  | @last cs ds h =>
    rw [← List.append_nil cs, h.strayFrom_eq]
    rfl
  | next h _ ih => rw [h.strayFrom_eq, hhyphen, ih]

lemma groupLengths_eq (h : Groups cs dss) : groupLengths cs = dss.map List.length := by
  induction h with
  | last h => exact h.groupLengths_eq
  | next h _ ih => rw [h.groupLengths_hyphen, ih, List.map_cons]

lemma filterMap_eq (h : Groups cs dss) : cs.filterMap hexDigit? = dss.flatten := by
  induction h with
  | last h => rw [h.filterMap_eq, List.flatten_singleton]
  | next h _ ih =>
    rw [List.filterMap_append, List.filterMap_cons_none hexDigit?_hyphen, h.filterMap_eq, ih,
      List.flatten_cons]

/-- A digit before a text makes its first group longer. -/
lemma cons {c : Char} {d : Fin 16} (hd : IsDigit c d) (h : Groups cs dss) :
    ∃ dss', Groups (c :: cs) dss' := by
  cases h with
  | last h => exact ⟨_, .last (.cons hd h)⟩
  | next h rest => exact ⟨_, .next (.cons hd h) rest⟩

end Groups

/-- Where nothing is out of place there are groups of digits. -/
lemma exists_groups {byte : Nat} {cs : List Char} (h : strayFrom byte cs = none) :
    ∃ dss, Groups cs dss := by
  induction cs generalizing byte with
  | nil => exact ⟨_, .last .nil⟩
  | cons c cs ih =>
    rw [strayFrom] at h
    split at h
    · next hplace =>
      obtain ⟨dss, hrest⟩ := ih h
      rcases hplace with rfl | hdigit
      · exact ⟨_, .next .nil hrest⟩
      · obtain ⟨d, hd⟩ := Option.isSome_iff_exists.1 hdigit
        exact hrest.cons (hexDigit?_eq_some_iff.1 hd)
    · exact nomatch h

/-- The first group that has another length than it should have is found if there is one. -/
lemma badGroupFrom_eq_none_iff {i : Nat} {expected found : List Nat}
    (h : found.length = expected.length) :
    badGroupFrom i expected found = none ↔ found = expected := by
  induction expected generalizing i found with
  | nil => exact iff_of_true rfl (List.length_eq_zero_iff.1 h)
  | cons e es ih =>
    obtain ⟨f, fs, rfl⟩ := List.exists_cons_of_length_eq_add_one h
    rw [badGroupFrom, List.cons.injEq]
    split
    · next hsame => rw [ih (Nat.succ.inj h), hsame, eq_self, true_and]
    · next hother => exact iff_of_false nofun fun hsame => hother hsame.1.symm

/-- How many digits there are in which groups: a run of 32, which is not possible everywhere, or
the five groups of an identifier. -/
inductive Layout : Bool → List (List (Fin 16)) → Prop
  | run {ds : List (Fin 16)} (h : ds.length = runSize) : Layout false [ds]
  | groups {isGrouped : Bool} {dss : List (List (Fin 16))} (h : dss.map List.length = groupSizes) :
      Layout isGrouped dss

lemma layout_singleton_iff {isGrouped : Bool} {ds : List (Fin 16)} :
    Layout isGrouped [ds] ↔ isGrouped = false ∧ ds.length = runSize := by
  constructor
  · rintro (h | h)
    · exact ⟨rfl, h⟩
    · simp [groupSizes] at h
  · rintro ⟨rfl, h⟩
    exact .run h

lemma layout_cons_cons_iff {isGrouped : Bool} {ds ds' : List (Fin 16)}
    {dss : List (List (Fin 16))} : Layout isGrouped (ds :: ds' :: dss) ↔
      (ds :: ds' :: dss).map List.length = groupSizes := by
  constructor
  · rintro (h | h)
    exact h
  · exact .groups

lemma Candidate.layoutFault?_eq_none_iff {c : Candidate} {dss : List (List (Fin 16))}
    (h : Groups c.body dss) : c.layoutFault? = none ↔ Layout c.isGrouped dss := by
  rw [Candidate.layoutFault?, h.groupLengths_eq]
  obtain ⟨ds, rest, rfl⟩ := List.exists_cons_of_ne_nil h.ne_nil
  rcases rest with _ | ⟨ds', rest⟩
  · rw [List.map_singleton]
    dsimp only
    rw [layout_singleton_iff]
    cases c.isGrouped <;> simp
  · rw [layout_cons_cons_iff, List.map_cons, List.map_cons]
    dsimp only
    split
    · next hcount =>
      refine iff_of_false nofun fun hsizes => hcount ?_
      rw [hsizes]
      rfl
    · next hcount => rw [Option.map_eq_none_iff, badGroupFrom_eq_none_iff (not_not.1 hcount)]

lemma Candidate.fault?_eq_none_iff {c : Candidate} :
    c.fault? = none ↔ ∃ dss, Groups c.body dss ∧ Layout c.isGrouped dss := by
  rw [Candidate.fault?]
  constructor
  · intro h
    split at h
    · exact nomatch h
    · next hstray =>
      obtain ⟨dss, hdss⟩ := exists_groups hstray
      exact ⟨dss, hdss, (layoutFault?_eq_none_iff hdss).1 h⟩
  · rintro ⟨dss, hdss, hlayout⟩
    rw [hdss.strayFrom_eq]
    exact (layoutFault?_eq_none_iff hdss).2 hlayout

lemma map_length_groups (id : Identifier) : id.groups.map List.length = groupSizes := by
  simp only [groups, List.map_cons, List.length_take, List.length_drop, id.length_digits]
  rfl

lemma flatten_groups (id : Identifier) : id.groups.flatten = id.digits := by
  have hsplit : ∀ n, (id.digits.drop n).take 4 ++ id.digits.drop (n + 4) = id.digits.drop n := by
    intro n
    rw [← List.drop_drop, List.take_append_drop]
  simp only [groups, List.flatten_cons, List.flatten_nil, List.append_nil]
  rw [hsplit 16, hsplit 12, hsplit 8, List.take_append_drop]

/-- The groups of an identifier are told by their lengths. -/
lemma eq_groups_iff {id : Identifier} {dss : List (List (Fin 16))} :
    dss = id.groups ↔ dss.flatten = id.digits ∧ dss.map List.length = groupSizes := by
  rw [List.eq_iff_flatten_eq, flatten_groups, map_length_groups]

end PaymentPlans.Identifier
