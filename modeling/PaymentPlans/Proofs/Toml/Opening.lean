/-
# Texts with an open value

What is typed at some place of a text is taken as the value of a key there: behind the equals sign
of a line of its own, or of a member of a table in a list between brackets.  What stands before the
place is taken whatever follows it; what stands behind it is looked at once the value is known.
-/
import PaymentPlans.Proofs.Toml.Prefix
import PaymentPlans.Proofs.Toml.Statement

namespace PaymentPlans.Toml

open Text (StopsAt)

/-! ## Taken whatever follows -/

/-- A text is taken as something, whatever follows it. -/
def Takes {α : Type} (scan : Scan α) (text : List Char) (a : α) : Prop :=
  ∀ rest, scan (text ++ rest) = some (a, rest)

/-- Texts one behind the other, each of which is taken whatever follows it. -/
inductive TakesAll {α : Type} (scan : Scan α) : List Char → List α → Prop where
  | nil : TakesAll scan [] []
  | cons {text others : List Char} {a : α} {as : List α} (first : Takes scan text a)
      (rest : TakesAll scan others as) : TakesAll scan (text ++ others) (a :: as)

section Takes

variable {α : Type} {scan : Scan α} {text : List Char}

lemma Takes.ne_nil {a : α} (h : Takes scan text a) (hnil : scan [] = none) : text ≠ [] := by
  rintro rfl
  exact nomatch hnil.symm.trans (h [])

lemma TakesAll.length_le {as : List α} (h : TakesAll scan text as) (hnil : scan [] = none) :
    as.length ≤ text.length := by
  induction h with
  | nil => exact Nat.le_refl 0
  | cons first _ ih =>
    have hpos := List.length_pos_iff.2 (first.ne_nil hnil)
    rw [List.length_cons, List.length_append]
    omega

end Takes

/-! ## Labels -/

/-- Takes a key and the equals sign behind it. -/
def scanLabel : Scan Key := fun cs => do
  let (key, cs) ← scanKey cs
  let ((), cs) ← scanChar '=' cs
  return (key, cs)

/-- Behind a gap, a key starts as a statement does, and with no bracket or brace. -/
lemma skipGap_of_scanKey {cs rest : List Char} {key : Key} (h : scanKey cs = some (key, rest)) :
    ∃ c tail, skipGap cs = c :: tail ∧ StartsStatement c ∧ c ≠ '[' ∧ c ≠ '\x7d' := by
  have hpart : scanPart (skipGap cs) ≠ none := by
    intro hnone
    rw [scanKey, scanPartsFuel, hnone] at h
    cases h
  rcases hskip : skipGap cs with _ | ⟨c, tail⟩
  · rw [hskip] at hpart
    exact absurd rfl hpart
  refine ⟨c, tail, rfl, ?_⟩
  rw [hskip, scanPart] at hpart
  by_cases hdouble : c = '"'
  · subst hdouble
    decide
  by_cases hsingle : c = '\''
  · subst hsingle
    decide
  rw [if_neg hdouble, if_neg hsingle] at hpart
  by_cases hbare : isBare c
  · have hne : ∀ d, isBare d = false → c ≠ d := fun _ => Text.ne_of_kind hbare
    exact ⟨.of_isBare hbare, hne '[' rfl, hne '\x7d' rfl⟩
  · exact absurd (if_neg hbare) hpart

section Labels

variable {key : Key} {label : List Char}

lemma Takes.label_eq_cons (h : Takes scanLabel label key) (hstart : StopsAt isGap label)
    (rest : List Char) : ∃ c tail, label ++ rest = c :: tail ∧ StartsStatement c ∧ c ≠ '[' := by
  obtain ⟨d, ds, rfl⟩ := List.exists_cons_of_ne_nil (h.ne_nil rfl)
  obtain ⟨_, hkey, -⟩ := Option.bind_eq_some_iff.1 (h rest)
  obtain ⟨c, tail, hskip, hc, hbracket, -⟩ := skipGap_of_scanKey hkey
  rw [List.cons_append, skipGap_of_ne (hstart d rfl)] at hskip
  exact ⟨c, tail, hskip, hc, hbracket⟩

/-- Behind a label comes a value, and the end of the line. -/
lemma Takes.scanStatement (h : Takes scanLabel label key) (hstart : StopsAt isGap label)
    (rest : List Char) : scanStatement (label ++ rest) = do
      let (value, rest) ← scanValue maxDepth (skipGap rest)
      let ((), rest) ← scanLineEnd rest
      return (.entry key value, rest) := by
  obtain ⟨c, tail, heq, -, hbracket⟩ := h.label_eq_cons hstart rest
  have hhead : ∀ tail, label ++ rest ≠ '[' :: tail := fun tail hlist =>
    hbracket (List.cons.inj (heq.symm.trans hlist)).1
  obtain ⟨⟨key', cs⟩, hkey, hlabel⟩ := Option.bind_eq_some_iff.1 (h rest)
  obtain ⟨⟨_, ds⟩, hequals, hpair⟩ := Option.bind_eq_some_iff.1 hlabel
  obtain ⟨rfl, rfl⟩ := Prod.mk.inj (Option.some.inj hpair)
  rw [scanStatement.eq_3 _ (fun _ => hhead _) fun _ => hhead _, hkey]
  simp only [Option.bind_eq_bind, Option.bind_some, hequals]

end Labels

/-! ## Lists and tables -/

section Items

variable {scanItem : Scan Value}

/-- Takes an item of a list and the comma behind it. -/
def scanListed (scanItem : Scan Value) : Scan Value := fun cs =>
  match skipLayout cs with
  | ']' :: _ => none
  | cs => do
    let (item, cs) ← scanItem cs
    let ((), cs) ← scanChar ',' (skipLayout cs)
    return (item, cs)

/-- Takes what stands behind an item of a list, up to the end of the list. -/
def scanBehindListed (scanItem : Scan Value) : Scan (List Value) := fun cs =>
  match skipLayout cs with
  | ',' :: cs => scanItemsFuel scanItem (cs.length + 1) cs
  | ']' :: cs => some ([], cs)
  | _ => none

/-- Takes a member of a table and the comma behind it. -/
def scanNamed (scanItem : Scan Value) : Scan (Key × Value) := fun cs => do
  let (key, cs) ← scanLabel cs
  let (value, cs) ← scanItem (skipGap cs)
  let ((), cs) ← scanChar ',' (skipGap cs)
  return ((key, value), cs)

/-- A label and a written string are a member of a table, if a comma follows. -/
lemma takes_scanNamed_writeString {label : List Char} {key : Key} (hlabel : Takes scanLabel label key)
    (s : String) (depth : Nat) :
    Takes (scanNamed (scanValue depth)) (label ++ ' ' :: (writeString s ++ [','])) (key, .text s) := by
  intro rest
  have hvalue : scanValue depth (skipGap (writeString s ++ ',' :: rest)) =
      some (.text s, ',' :: rest) := scanValue_writeString s depth (by rintro ⟨⟩ <;> decide) rest
  have hgap : skipGap (' ' :: (writeString s ++ ',' :: rest)) = skipGap (writeString s ++ ',' :: rest) :=
    rfl
  have hcomma : scanChar ',' (skipGap (',' :: rest)) = some ((), rest) := rfl
  simp only [scanNamed, List.append_assoc, List.cons_append, List.nil_append, hlabel _, hgap, hvalue,
    hcomma, Option.bind_eq_bind, Option.bind_some, Option.pure_def]

/-- Takes what stands behind a member of a table, up to the end of the table. -/
def scanBehindNamed (scanItem : Scan Value) : Scan (List (Key × Value)) := fun cs =>
  match skipGap cs with
  | ',' :: cs => scanMembersFuel scanItem (cs.length + 1) cs
  | '\x7d' :: cs => some ([], cs)
  | _ => none

lemma length_skipLayout_le (cs : List Char) : (skipLayout cs).length ≤ cs.length := by
  induction hlength : cs.length using Nat.strong_induction_on generalizing cs with
  | _ n ih =>
    have hcomment := length_skipComment_le (skipGap cs)
    have hgap := length_skipGap_le cs
    rw [skipLayout_eq]
    rcases hnewline : scanNewline (skipComment (skipGap cs)) with _ | ⟨⟨⟩, rest⟩
    · rw [← hlength]
      exact hgap
    · have hlt := length_lt_of_scanNewline hnewline
      have hrest := ih rest.length (by omega) rest rfl
      dsimp only [Option.elim]
      omega

/-- Enough fuel for a list is enough. -/
lemma scanItemsFuel_mono {n m : Nat} {cs rest : List Char} {items : List Value}
    (h : scanItemsFuel scanItem n cs = some (items, rest)) (hle : n ≤ m) :
    scanItemsFuel scanItem m cs = some (items, rest) := by
  induction n generalizing m cs rest items with
  | zero => exact nomatch h
  | succ n ih =>
    obtain ⟨m, rfl⟩ : ∃ k, m = k + 1 := ⟨m - 1, by omega⟩
    simp only [scanItemsFuel_eq, scanFront] at h ⊢
    rcases hend : scanChar ']' (skipLayout cs) with _ | _
    · rw [hend] at h
      obtain ⟨⟨item, cs₁⟩, hitem, h⟩ := Option.bind_eq_some_iff.1 h
      simp only [Option.elim_none, hitem, Option.bind_eq_bind, Option.bind_some, scanBehindItem]
        at h ⊢
      rcases hcomma : scanChar ',' (skipLayout cs₁) with _ | ⟨_, cs₂⟩
      · rwa [hcomma] at h
      · rw [hcomma] at h
        obtain ⟨⟨others, cs₃⟩, hothers, h⟩ := Option.bind_eq_some_iff.1 h
        simp only [Option.elim_some, ih hothers (Nat.le_of_succ_le_succ hle), Option.bind_some]
        exact h
    · rwa [hend] at h

/-- Enough fuel for a table is enough. -/
lemma scanMembersFuel_mono {n m : Nat} {cs rest : List Char} {members : List (Key × Value)}
    (h : scanMembersFuel scanItem n cs = some (members, rest)) (hle : n ≤ m) :
    scanMembersFuel scanItem m cs = some (members, rest) := by
  induction n generalizing m cs rest members with
  | zero => exact nomatch h
  | succ n ih =>
    obtain ⟨m, rfl⟩ : ∃ k, m = k + 1 := ⟨m - 1, by omega⟩
    simp only [scanMembersFuel_eq] at h ⊢
    obtain ⟨⟨key, cs₁⟩, hkey, h⟩ := Option.bind_eq_some_iff.1 h
    obtain ⟨⟨_, cs₂⟩, hequals, h⟩ := Option.bind_eq_some_iff.1 h
    obtain ⟨⟨value, cs₃⟩, hvalue, h⟩ := Option.bind_eq_some_iff.1 h
    simp only [hkey, hequals, hvalue, Option.bind_eq_bind, Option.bind_some, scanBehindMember]
      at h ⊢
    rcases hcomma : scanChar ',' (skipGap cs₃) with _ | ⟨_, cs₄⟩
    · rwa [hcomma] at h
    · rw [hcomma] at h
      obtain ⟨⟨others, cs₅⟩, hothers, h⟩ := Option.bind_eq_some_iff.1 h
      simp only [Option.elim_some, ih hothers (Nat.le_of_succ_le_succ hle), Option.bind_some]
      exact h

/-- An item with its comma is taken from the front of a list, and the others follow. -/
lemma scanItemsFuel_scanListed {cs rest : List Char} {item : Value}
    (h : scanListed scanItem cs = some (item, rest)) (fuel : Nat) :
    scanItemsFuel scanItem (fuel + 1) cs =
      (scanItemsFuel scanItem fuel rest).map fun (items, cs) => (item :: items, cs) := by
  simp only [scanItemsFuel_eq, scanFront]
  rw [scanListed] at h
  split at h
  · cases h
  · next hend =>
    obtain ⟨⟨item', cs₁⟩, hitem, h⟩ := Option.bind_eq_some_iff.1 h
    obtain ⟨⟨_, cs₂⟩, hcomma, hpair⟩ := Option.bind_eq_some_iff.1 h
    obtain ⟨rfl, rfl⟩ := Prod.mk.inj (Option.some.inj hpair)
    have hnone : scanChar ']' (skipLayout cs) = none := scanChar_eq_none fun hhead => by
      obtain ⟨tail, htail⟩ := List.head?_eq_some_iff.1 hhead
      exact hend tail htail
    simp only [hnone, Option.elim_none, hitem, Option.bind_eq_bind, Option.bind_some,
      scanBehindItem, hcomma, Option.elim_some]
    cases scanItemsFuel scanItem fuel cs₂ <;> rfl

lemma TakesAll.scanItemsFuel {text : List Char} {items : List Value}
    (h : TakesAll (scanListed scanItem) text items) (fuel : Nat) (rest : List Char) :
    scanItemsFuel scanItem (fuel + items.length) (text ++ rest) =
      (scanItemsFuel scanItem fuel rest).map fun (more, cs) => (items ++ more, cs) := by
  induction h with
  | nil => exact Option.map_id'.symm
  | cons first _ ih =>
    rw [List.length_cons, ← Nat.add_assoc, List.append_assoc, scanItemsFuel_scanListed (first _),
      ih, Option.map_map]
    rfl

/-- A member with its comma is taken from the front of a table, and the others follow. -/
lemma scanMembersFuel_scanNamed {cs rest : List Char} {member : Key × Value}
    (h : scanNamed scanItem cs = some (member, rest)) (fuel : Nat) :
    scanMembersFuel scanItem (fuel + 1) cs =
      (scanMembersFuel scanItem fuel rest).map fun (members, cs) => (member :: members, cs) := by
  obtain ⟨⟨key, cs₂⟩, hlabel, h⟩ := Option.bind_eq_some_iff.1 h
  obtain ⟨⟨value, cs₃⟩, hvalue, h⟩ := Option.bind_eq_some_iff.1 h
  obtain ⟨⟨_, cs₄⟩, hcomma, hpair⟩ := Option.bind_eq_some_iff.1 h
  obtain ⟨rfl, rfl⟩ := Prod.mk.inj (Option.some.inj hpair)
  obtain ⟨⟨_, cs₁⟩, hkey, hlabel⟩ := Option.bind_eq_some_iff.1 hlabel
  obtain ⟨⟨_, _⟩, hequals, hpair⟩ := Option.bind_eq_some_iff.1 hlabel
  obtain ⟨rfl, rfl⟩ := Prod.mk.inj (Option.some.inj hpair)
  simp only [scanMembersFuel_eq, hkey, hequals, hvalue, Option.bind_eq_bind, Option.bind_some,
    scanBehindMember, hcomma, Option.elim_some]
  cases scanMembersFuel scanItem fuel cs₄ <;> rfl

lemma TakesAll.scanMembersFuel {text : List Char} {members : List (Key × Value)}
    (h : TakesAll (scanNamed scanItem) text members) (fuel : Nat) (rest : List Char) :
    scanMembersFuel scanItem (fuel + members.length) (text ++ rest) =
      (scanMembersFuel scanItem fuel rest).map fun (more, cs) => (members ++ more, cs) := by
  induction h with
  | nil => exact Option.map_id'.symm
  | cons first _ ih =>
    rw [List.length_cons, ← Nat.add_assoc, List.append_assoc, scanMembersFuel_scanNamed (first _),
      ih, Option.map_map]
    rfl

/-- What is behind an item is looked at the same with enough fuel. -/
lemma scanBehindItem_eq {cs rest : List Char} {others : List Value}
    (h : scanBehindListed scanItem cs = some (others, rest)) {fuel : Nat} (hfuel : cs.length ≤ fuel)
    (item : Value) :
    scanBehindItem scanItem fuel item (skipLayout cs) = some (item :: others, rest) := by
  have hlength := length_skipLayout_le cs
  rw [scanBehindListed] at h
  split at h
  · next ds heq =>
    rw [heq, List.length_cons] at hlength
    have hcomma : scanChar ',' (',' :: ds) = some ((), ds) := rfl
    rw [heq, scanBehindItem, hcomma, Option.elim_some]
    simp only [scanItemsFuel_mono h (show ds.length + 1 ≤ fuel by omega)]
    rfl
  · next heq =>
    obtain ⟨rfl, rfl⟩ := Prod.mk.inj (Option.some.inj h)
    rw [heq]
    rfl
  · cases h

/-- What is behind a member is looked at the same with enough fuel. -/
lemma scanBehindMember_eq {cs rest : List Char} {others : List (Key × Value)}
    (h : scanBehindNamed scanItem cs = some (others, rest)) {fuel : Nat} (hfuel : cs.length ≤ fuel)
    (key : Key) (value : Value) :
    scanBehindMember scanItem fuel key value (skipGap cs) = some ((key, value) :: others, rest) := by
  have hlength := length_skipGap_le cs
  rw [scanBehindNamed] at h
  split at h
  · next ds heq =>
    rw [heq, List.length_cons] at hlength
    have hcomma : scanChar ',' (',' :: ds) = some ((), ds) := rfl
    rw [heq, scanBehindMember, hcomma, Option.elim_some]
    simp only [scanMembersFuel_mono h (show ds.length + 1 ≤ fuel by omega)]
    rfl
  · next heq =>
    obtain ⟨rfl, rfl⟩ := Prod.mk.inj (Option.some.inj h)
    rw [heq]
    rfl
  · cases h

/-- The members of a table with an open value are those before it, the one with what stands there,
and those behind it. -/
lemma scanMembers_open {text label gap rest right left : List Char} {key : Key} {value : Value}
    {before behind : List (Key × Value)} (hbefore : TakesAll (scanNamed scanItem) text before)
    (hlabel : Takes scanLabel label key) (hgap : ∀ c ∈ gap, isGap c)
    (hvalue : scanItem (skipGap rest) = some (value, right)) (hlength : right.length ≤ rest.length)
    (hbehind : scanBehindNamed scanItem right = some (behind, left)) :
    scanMembers scanItem (text ++ (label ++ (gap ++ rest))) =
      some (before ++ (key, value) :: behind, left) := by
  -- The table starts with a key, so it does not end there.
  have hend : ∀ tail, skipGap (text ++ (label ++ (gap ++ rest))) ≠ '\x7d' :: tail := by
    have hstart : ∃ key cs, scanKey (text ++ (label ++ (gap ++ rest))) = some (key, cs) := by
      have hkey : ∀ {cs key rest}, scanLabel cs = some (key, rest) →
          ∃ key rest, scanKey cs = some (key, rest) := fun h =>
        have ⟨(key, rest), hkey, _⟩ := Option.bind_eq_some_iff.1 h
        ⟨key, rest, hkey⟩
      cases hbefore with
      | nil => exact hkey (hlabel _)
      | cons first _ =>
        rw [List.append_assoc]
        obtain ⟨_, hnamed, -⟩ := Option.bind_eq_some_iff.1 (first _)
        exact hkey hnamed
    obtain ⟨_, _, hkey⟩ := hstart
    obtain ⟨c, _, hskip, -, -, hc⟩ := skipGap_of_scanKey hkey
    exact fun tail heq => hc (List.cons.inj (hskip.symm.trans heq)).1
  have hcount := hbefore.length_le rfl
  have hpos := List.length_pos_iff.2 (hlabel.ne_nil rfl)
  obtain ⟨fuel, hfuel⟩ : ∃ fuel, (text ++ (label ++ (gap ++ rest))).length + 1 =
      fuel + 1 + before.length :=
    ⟨(text ++ (label ++ (gap ++ rest))).length - before.length, by
      simp only [List.length_append]
      omega⟩
  have henough : right.length ≤ fuel := by
    simp only [List.length_append] at hfuel
    omega
  have hopen : Toml.scanMembersFuel scanItem (fuel + 1) (label ++ (gap ++ rest)) =
      some ((key, value) :: behind, left) := by
    obtain ⟨⟨key', cs⟩, hkey, hrest⟩ := Option.bind_eq_some_iff.1 (hlabel (gap ++ rest))
    obtain ⟨⟨_, _⟩, hequals, hpair⟩ := Option.bind_eq_some_iff.1 hrest
    obtain ⟨rfl, rfl⟩ := Prod.mk.inj (Option.some.inj hpair)
    have hskip : skipGap (gap ++ rest) = skipGap rest := List.dropWhile_append_of_pos hgap
    simp only [scanMembersFuel_eq, hkey, hequals, hskip, hvalue, Option.bind_eq_bind,
      Option.bind_some, scanBehindMember_eq hbehind henough]
  rw [scanMembers]
  split
  · next heq => exact absurd heq (hend _)
  · rw [hfuel, hbefore.scanMembersFuel, hopen]
    rfl

end Items

/-- A list between brackets with an open value under a key of one of its tables: what stands before
the value, and what stands behind it up to the end of the list. -/
inductive OpensListed (key : Key) (first : List Value) (before behind : List (Key × Value))
    (others : List Value) (rest : List Char) : List Char → List Char → Prop where
  | mk {items layout members label gap tableEnd listEnd : List Char}
      (hitems : TakesAll (scanListed (scanValue 78)) items first)
      (hlayout : ∀ cs, skipLayout (layout ++ '\x7b' :: cs) = '\x7b' :: cs)
      (hmembers : TakesAll (scanNamed (scanValue 77)) members before)
      (hlabel : Takes scanLabel label key) (hgap : ∀ c ∈ gap, isGap c)
      (htable : scanBehindNamed (scanValue 77) (tableEnd ++ (listEnd ++ rest)) =
        some (behind, listEnd ++ rest))
      (hlist : scanBehindListed (scanValue 78) (listEnd ++ rest) = some (others, rest)) :
      OpensListed key first before behind others rest
        ('[' :: (items ++ (layout ++ '\x7b' :: (members ++ (label ++ gap)))))
        (tableEnd ++ (listEnd ++ rest))

/-- A list with an open value is taken with what stands there, unless the table around it names a
key twice. -/
lemma OpensListed.scanValue {key : Key} {first others : List Value}
    {before behind : List (Key × Value)} {left right rest text : List Char} {value : Value}
    (h : OpensListed key first before behind others rest left right)
    (hvalue : Toml.scanValue 77 (skipGap text) = some (value, right))
    (hlength : right.length ≤ text.length) :
    Toml.scanValue maxDepth (skipGap (left ++ text)) =
      ((inlineTable? (before ++ (key, value) :: behind)).map fun entries =>
        .list (first ++ .table .closed entries :: others)).map fun list => (list, rest) := by
  obtain @⟨items, layout, members, label, gap, tableEnd, listEnd, hitems, hlayout, hmembers, hlabel,
    hgap, htable, hlist⟩ := h
  let braced := '\x7b' :: (members ++ (label ++ (gap ++ text)))
  let body := items ++ (layout ++ braced)
  have hbody : '[' :: (items ++ (layout ++ '\x7b' :: (members ++ (label ++ gap)))) ++ text =
      '[' :: body := by
    simp only [body, braced, List.append_assoc, List.cons_append]
  have hnil : scanListed (Toml.scanValue 78) [] = none := rfl
  have hcount := hitems.length_le hnil
  have hlengths : body.length = items.length + (layout.length + (members.length +
      (label.length + (gap.length + text.length)) + 1)) := by
    simp only [body, braced, List.length_append, List.length_cons]
  obtain ⟨fuel, hfuel⟩ : ∃ fuel, body.length + 1 = fuel + 1 + first.length :=
    ⟨body.length - first.length, by omega⟩
  have henough : (listEnd ++ rest).length ≤ fuel := by
    simp only [List.length_append] at hlength ⊢
    omega
  have hitem : Toml.scanValue 78 braced = (inlineTable? (before ++ (key, value) :: behind)).map
      fun entries => (.table .closed entries, listEnd ++ rest) := by
    have hopen := scanMembers_open hmembers hlabel hgap hvalue hlength htable
    have hbraced : Toml.scanValue 78 braced = (do
        let (members, rest) ← scanMembers (Toml.scanValue 77) (members ++ (label ++ (gap ++ text)))
        return (.table .closed (← inlineTable? members), rest)) := rfl
    rw [hbraced, hopen]
    simp only [Option.bind_eq_bind, Option.bind_some]
    cases inlineTable? (before ++ (key, value) :: behind) <;> rfl
  have hlisted : scanItemsFuel (Toml.scanValue 78) (fuel + 1) (layout ++ braced) =
      (inlineTable? (before ++ (key, value) :: behind)).map fun entries =>
        (.table .closed entries :: others, rest) := by
    have hend : scanChar ']' braced = none := rfl
    have hskip : skipLayout (layout ++ braced) = braced := hlayout _
    simp only [scanItemsFuel_eq, scanFront, hskip, hend, Option.elim_none, hitem]
    cases inlineTable? (before ++ (key, value) :: behind) with
    | none => rfl
    | some entries =>
      simp only [Option.map_some, Option.bind_eq_bind, Option.bind_some,
        scanBehindItem_eq hlist henough]
  have hbracketed : Toml.scanValue maxDepth (skipGap ('[' :: body)) =
      (scanItemsFuel (Toml.scanValue 78) (body.length + 1) body).map fun (items, rest) =>
        (.list items, rest) := rfl
  rw [hbody, hbracketed, hfuel, hitems.scanItemsFuel, hlisted]
  simp only [Option.map_map]
  rfl

/-! ## Entries of a text -/

lemma StartsStatement.skipLayout_append {c : Char} (h : StartsStatement c) {indent : List Char}
    (hindent : ∀ d ∈ indent, isGap d) (cs : List Char) :
    Toml.skipLayout (indent ++ c :: cs) = c :: cs := by
  have hskip : skipGap (indent ++ c :: cs) = c :: cs :=
    Text.dropWhile_run hindent (Text.stopsAt_cons h.no_gap cs)
  have hself := h.skipLayout cs
  rw [skipLayout_eq, skipGap_of_ne h.no_gap] at hself
  rw [skipLayout_eq, hskip, hself]

lemma length_lt_of_readStatementsFuel {n : Nat} {cs : List Char} {statements : List Statement}
    (h : readStatementsFuel n cs = some statements) : statements.length < n := by
  induction n generalizing cs statements with
  | zero => cases h
  | succ n ih =>
    rw [readStatementsFuel] at h
    split at h
    · rw [← Option.some.inj h]
      exact Nat.succ_pos n
    · split at h
      · rw [← Option.some.inj h]
        exact Nat.succ_pos n
      · cases h
    · obtain ⟨⟨statement, rest⟩, -, h⟩ := Option.bind_eq_some_iff.1 h
      obtain ⟨others, hothers, h⟩ := Option.bind_eq_some_iff.1 h
      rw [← Option.some.inj h]
      exact Nat.succ_lt_succ (ih hothers)

lemma length_le_of_scanLineEnd {cs rest : List Char} (h : scanLineEnd cs = some ((), rest)) :
    rest.length ≤ cs.length := by
  have hcomment := length_skipComment_le (skipGap cs)
  have hgap := length_skipGap_le cs
  rw [scanLineEnd] at h
  split at h
  · obtain ⟨-, rfl⟩ := Prod.mk.inj (Option.some.inj h)
    exact Nat.zero_le _
  · have hlt := length_lt_of_scanNewline h
    omega

/-- Lines, and then the start of one more up to the value of its key. -/
inductive StartsEntry (key : Key) (statements : List Statement) : List Char → Prop where
  | mk {lines indent label gap : List Char} (whole : lines = [] ∨ WholeLines lines)
      (read : readStatementsFuel (lines.length + 1) lines = some statements)
      (hindent : ∀ c ∈ indent, isGap c) (hlabel : Takes scanLabel label key)
      (hstart : StopsAt isGap label) (hgap : ∀ c ∈ gap, isGap c) :
      StartsEntry key statements (lines ++ (indent ++ (label ++ gap)))

/-- The rest of a line, and then lines. -/
inductive EndsEntry (statements : List Statement) (cs : List Char) : Prop where
  | mk {rest : List Char} (line : scanLineEnd cs = some ((), rest))
      (read : readStatementsFuel (rest.length + 1) rest = some statements)

/-- **The statements around an open value** are those before it and those behind it, if a value
stands there. -/
lemma StartsEntry.readStatementsFuel {key : Key} {before behind : List Statement}
    {above text below : List Char} (h : StartsEntry key before above) {read : Option Value}
    (hread : scanValue maxDepth (skipGap text) = read.map fun value => (value, below))
    (hlength : below.length ≤ text.length) (hend : EndsEntry behind below) :
    Toml.readStatementsFuel ((above ++ text).length + 1) (above ++ text) =
      read.map fun value => before ++ .entry key value :: behind := by
  obtain @⟨lines, indent, label, gap, hlines, hbefore, hindent, hlabel, hstart, hgap⟩ := h
  obtain @⟨rest, hline, hbehind⟩ := hend
  let whole := lines ++ (indent ++ (label ++ gap)) ++ text
  have hwhole : whole = lines ++ (indent ++ (label ++ (gap ++ text))) := by
    simp only [whole, List.append_assoc]
  have hcount := length_lt_of_readStatementsFuel hbefore
  have hrest := length_le_of_scanLineEnd hline
  have hpos := List.length_pos_iff.2 (hlabel.ne_nil rfl)
  have hlengths : whole.length =
      lines.length + (indent.length + (label.length + (gap.length + text.length))) := by
    simp only [hwhole, List.length_append]
  obtain ⟨m, hm⟩ : ∃ m, whole.length + 1 = before.length + (m + 1) :=
    ⟨whole.length - before.length, by omega⟩
  obtain ⟨c, tail, heq, hc, -⟩ := hlabel.label_eq_cons hstart (gap ++ text)
  have hlayout : skipLayout (indent ++ (label ++ (gap ++ text))) = c :: tail := by
    rw [heq]
    exact hc.skipLayout_append hindent tail
  have hgapText : skipGap (gap ++ text) = skipGap text := List.dropWhile_append_of_pos hgap
  have hentry : Toml.readStatementsFuel (m + 1) (indent ++ (label ++ (gap ++ text))) =
      read.map fun value => .entry key value :: behind := by
    rw [readStatementsFuel_of_skipLayout hlayout hc, ← heq, hlabel.scanStatement hstart, hgapText,
      hread]
    cases read with
    | none => rfl
    | some value =>
      have hothers := readStatementsFuel_mono hbehind (show rest.length + 1 ≤ m by omega)
      simp only [Option.map_some, Option.bind_eq_bind, Option.bind_some, hline, Option.pure_def,
        hothers]
  rw [show (lines ++ (indent ++ (label ++ gap)) ++ text).length + 1 = before.length + (m + 1)
    from hm, show lines ++ (indent ++ (label ++ gap)) ++ text = _ from hwhole,
    readStatementsFuel_append hlines hbefore, hentry, Option.map_map]
  rfl

end PaymentPlans.Toml
