/-
# The texts of an identifier

An identifier has four texts: a run of its digits, and its groups of digits with hyphens between
them, which may stand in braces or behind a prefix.  The digits may be of either case, and so may the
letters of the prefix `urn:uuid:`.  Each of the four has a length of its own, so a text is taken for
the form that has its length.  These texts are read as the identifier and no others, and its written
form is one of them.
-/
import PaymentPlans.Proofs.Identifier.Spelling

namespace PaymentPlans.Identifier

open Text (byteCount)

/-! ## Wrappings -/

/-- The letters that may stand in front are one byte long, and no blanks. -/
lemma urnPrefix_plain : ∀ c ∈ urnPrefix, c.utf8Size = 1 ∧ Text.isBlank c = false := by
  have hall : urnPrefix.all fun c => c.utf8Size == 1 && !Text.isBlank c := rfl
  simpa only [List.all_eq_true, Bool.and_eq_true, beq_iff_eq, Bool.not_eq_true'] using hall

/-- The prefix `urn:uuid:`, its letters in either case. -/
def IsUrnPrefix (start : List Char) : Prop := start.map Char.toLower = urnPrefix

/-- The texts of an identifier, with one of these prefixes or none: a run of its digits, or five
groups of them with hyphens between them, which may stand in braces or behind a prefix. -/
inductive IsText (IsPrefix : List Char → Prop) (id : Identifier) : List Char → Prop where
  | run {cs : List Char} (h : Spells cs id.digits) : IsText IsPrefix id cs
  | grouped {cs : List Char} (h : Groups cs id.groups) : IsText IsPrefix id cs
  | braced {cs : List Char} (h : Groups cs id.groups) :
      IsText IsPrefix id ('\x7b' :: (cs ++ ['\x7d']))
  | urn {start cs : List Char} (hstart : IsPrefix start) (h : Groups cs id.groups) :
      IsText IsPrefix id (start ++ cs)

/-- With fewer prefixes there are no more texts. -/
lemma IsText.mono {P Q : List Char → Prop} (hPQ : ∀ start, P start → Q start) {id : Identifier}
    {cs : List Char} (h : IsText P id cs) : IsText Q id cs := by
  cases h with
  | run h => exact .run h
  | grouped h => exact .grouped h
  | braced h => exact .braced h
  | urn hstart h => exact .urn (hPQ _ hstart) h

/-- A wrapping around a text. -/
inductive Wraps : Wrapping → List Char → List Char → Prop where
  | bare (cs : List Char) : Wraps .bare cs cs
  | braced (cs : List Char) : Wraps .braced cs ('\x7b' :: (cs ++ ['\x7d']))
  | urn {start : List Char} (hstart : start.map Char.toLower = urnPrefix) (cs : List Char) :
      Wraps .urn cs (start ++ cs)

lemma wraps_of_unwrap {w : Wrapping} {body cs : List Char} (h : unwrap cs = (w, body)) :
    Wraps w body cs := by
  have hparts : Wraps (unwrap cs).1 (unwrap cs).2 cs := by
    rw [unwrap]
    split
    · next h =>
      obtain ⟨hfirst, hlast⟩ := h
      obtain ⟨rest, rfl⟩ := List.head?_eq_some_iff.1 hfirst
      obtain ⟨body, hrest⟩ := List.getLast?_eq_some_iff.1 hlast
      obtain rfl : rest = body ++ ['\x7d'] := hrest
      rw [List.tail_cons, List.dropLast_concat]
      exact .braced body
    split
    · next h =>
      have hurn : Wraps .urn (cs.drop 9) (cs.take 9 ++ cs.drop 9) := .urn h _
      rwa [List.take_append_drop] at hurn
    · exact .bare cs
  rwa [h] at hparts

/-- A wrapping is found where it is. -/
lemma Wraps.unwrap_eq {w : Wrapping} {body cs : List Char} (h : Wraps w body cs) (hw : w ≠ .bare) :
    unwrap cs = (w, body) := by
  cases h with
  | bare => exact absurd rfl hw
  | braced =>
    have hends : ('\x7b' :: (body ++ ['\x7d'])).head? = some '\x7b' ∧
        ('\x7b' :: (body ++ ['\x7d'])).tail.getLast? = some '\x7d' :=
      ⟨rfl, List.getLast?_concat⟩
    rw [unwrap, if_pos hends, List.tail_cons, List.dropLast_concat]
  | @urn start hstart cs =>
    have hlength : start.length = 9 := by
      rw [← List.length_map Char.toLower, hstart]
      rfl
    have hends : ¬ ((start ++ body).head? = some '\x7b' ∧
        (start ++ body).tail.getLast? = some '\x7d') := by
      rintro ⟨hfirst, -⟩
      obtain ⟨c, rest, rfl⟩ := List.exists_cons_of_length_eq_add_one hlength
      rw [List.cons_append, List.head?_cons, Option.some_inj] at hfirst
      rw [hfirst, List.map_cons] at hstart
      have hhead : some '\x7b'.toLower = urnPrefix.head? := congrArg List.head? hstart
      exact absurd hhead (by decide)
    have htake : (start ++ body).take 9 = start := List.take_left' hlength
    have hdrop : (start ++ body).drop 9 = body := List.drop_left' hlength
    rw [unwrap, if_neg hends, htake, hdrop, if_pos hstart]

/-- A letter is one byte if the small letter is. -/
lemma utf8Size_of_toLower {c : Char} (h : c.toLower.utf8Size = 1) : c.utf8Size = 1 := by
  unfold Char.toLower at h
  split at h
  · next hupper =>
    rw [Char.utf8Size_eq_one_iff]
    exact UInt32.le_trans hupper.2 (by decide)
  · exact h

lemma byteCount_of_map_toLower {start low : List Char} (h : start.map Char.toLower = low)
    (hlow : ∀ c ∈ low, c.utf8Size = 1) : byteCount start = low.length := by
  induction start generalizing low with
  | nil =>
    subst h
    rfl
  | cons c start ih =>
    subst h
    rw [List.map_cons, List.forall_mem_cons] at hlow
    rw [Text.byteCount_cons, utf8Size_of_toLower hlow.1, ih rfl hlow.2, List.map_cons,
      List.length_cons, Nat.add_comm]

lemma Wraps.byteCount_eq {w : Wrapping} {body cs : List Char} (h : Wraps w body cs) :
    byteCount cs = byteCount body + w.size := by
  cases h with
  | bare => rfl
  | braced =>
    have hopen : '\x7b'.utf8Size = 1 := by decide
    have hclose : '\x7d'.utf8Size = 1 := by decide
    rw [Text.byteCount_cons, Text.byteCount_append, Text.byteCount_cons, hopen, hclose,
      Text.byteCount_nil, Wrapping.size]
    omega
  | urn hstart =>
    have hbytes := byteCount_of_map_toLower hstart fun c hc => (urnPrefix_plain c hc).1
    rw [Text.byteCount_append, hbytes, Nat.add_comm]
    rfl

/-! ## Forms -/

/-- What a text is taken for, by its length and its wrapping. -/
inductive Taken (cs : List Char) : Candidate → Prop where
  | run (h : byteCount cs = runSize) : Taken cs { body := cs, isGrouped := false }
  | grouped (h : byteCount cs = groupedSize) : Taken cs { body := cs, isGrouped := true }
  | wrapped {w : Wrapping} {body : List Char} (hw : w ≠ .bare) (hunwrap : unwrap cs = (w, body))
      (h : byteCount cs = groupedSize + w.size) : Taken cs { body, isGrouped := true }
  /-- It has the length of no form. -/
  | other {w : Wrapping} {body : List Char} (hunwrap : unwrap cs = (w, body))
      (hrun : byteCount cs ≠ runSize) (hgrouped : byteCount cs ≠ groupedSize)
      (hwrapped : byteCount cs ≠ groupedSize + w.size) :
      Taken cs { body, isGrouped := w != .bare, wrapping := w }

lemma taken (cs : List Char) : Taken cs (Candidate.ofChars cs) := by
  rw [Candidate.ofChars]
  rcases hunwrap : unwrap cs with ⟨w, body⟩
  dsimp only
  split
  · next hrun => exact .run hrun
  split
  · next hgrouped => exact .grouped hgrouped
  split
  · next hwrapped => exact .wrapped hwrapped.1 hunwrap hwrapped.2
  next hrun hgrouped hwrapped =>
  refine .other hunwrap hrun hgrouped fun hsize => ?_
  by_cases hbare : w = .bare
  · subst hbare
    exact hgrouped hsize
  · exact hwrapped ⟨hbare, hsize⟩

lemma ofDigits?_eq_some_iff {ds : List (Fin 16)} {id : Identifier} :
    ofDigits? ds = some id ↔ ds = id.digits := by
  constructor
  · intro h
    rw [ofDigits?] at h
    split at h
    · rw [← Option.some.inj h]
    · cases h
  · rintro rfl
    exact ofDigits?_digits id

lemma ofChars_eq_ok_iff_groups {cs : List Char} {id : Identifier} :
    ofChars cs = .ok id ↔ cs ≠ [] ∧ byteCount cs ≤ 45 ∧
      ∃ dss, Groups (Candidate.ofChars cs).body dss ∧ Layout (Candidate.ofChars cs).isGrouped dss ∧
        dss.flatten = id.digits := by
  rw [ofChars]
  split
  · next h =>
    refine iff_of_false nofun fun ⟨hsome, hshort, _⟩ => ?_
    exact h.elim hsome (Nat.not_lt_of_le hshort)
  next h =>
  obtain ⟨hsome, hshort⟩ := not_or.1 h
  dsimp only
  constructor
  · intro hok
    split at hok
    · exact nomatch hok
    next hfault =>
    obtain ⟨dss, hdss, hlayout⟩ := Candidate.fault?_eq_none_iff.1 hfault
    split at hok
    · next hdigits =>
      obtain rfl := Except.ok.inj hok
      rw [hdss.filterMap_eq, ofDigits?_eq_some_iff] at hdigits
      exact ⟨hsome, Nat.le_of_not_lt hshort, dss, hdss, hlayout, hdigits⟩
    · exact nomatch hok
  · rintro ⟨-, -, dss, hdss, hlayout, hdigits⟩
    rw [Candidate.fault?_eq_none_iff.2 ⟨dss, hdss, hlayout⟩, hdss.filterMap_eq,
      ofDigits?_eq_some_iff.2 hdigits]

lemma byteCount_of_groups {cs : List Char} {id : Identifier} (h : Groups cs id.groups) :
    byteCount cs = groupedSize := by
  have hbytes := h.byteCount_eq
  rw [flatten_groups, id.length_digits] at hbytes
  exact Nat.succ.inj hbytes

/-- What is laid out well is a run of the digits of an identifier, or its groups. -/
lemma Layout.cases {isGrouped : Bool} {cs : List Char} {dss : List (List (Fin 16))} {id : Identifier}
    (h : Layout isGrouped dss) (hgroups : Groups cs dss) (hdigits : dss.flatten = id.digits) :
    (isGrouped = false ∧ Spells cs id.digits) ∨ Groups cs id.groups := by
  cases h with
  | run =>
    refine .inl ⟨rfl, ?_⟩
    rw [← hdigits, List.flatten_singleton]
    cases hgroups with
    | last h => exact h
    | next _ rest => exact absurd rfl rest.ne_nil
  | groups hsizes =>
    rw [eq_groups_iff.2 ⟨hdigits, hsizes⟩] at hgroups
    exact .inr hgroups

/-- The texts of an identifier are what is read as the identifier. -/
lemma isText_of_groups {cs : List Char} {c : Candidate} {dss : List (List (Fin 16))}
    {id : Identifier} (htaken : Taken cs c) (hdss : Groups c.body dss)
    (hlayout : Layout c.isGrouped dss) (hdigits : dss.flatten = id.digits) :
    IsText IsUrnPrefix id cs := by
  rcases hlayout.cases hdss hdigits with ⟨hbare, hspells⟩ | hgroups
  · cases htaken with
    | run => exact .run hspells
    | grouped | wrapped => exact nomatch hbare
    | @other w _ hunwrap hrun =>
      obtain rfl : w = .bare := by simpa using hbare
      cases wraps_of_unwrap hunwrap
      exact absurd (hspells.byteCount_eq.trans id.length_digits) hrun
  · have hbytes := byteCount_of_groups hgroups
    cases htaken with
    | run h => exact absurd (hbytes.symm.trans h) (by decide)
    | grouped => exact .grouped hgroups
    | wrapped hw hunwrap =>
      cases wraps_of_unwrap hunwrap with
      | bare => exact absurd rfl hw
      | braced => exact .braced hgroups
      | urn hstart => exact .urn hstart hgroups
    | other hunwrap _ _ hwrapped =>
      refine absurd ?_ hwrapped
      rw [(wraps_of_unwrap hunwrap).byteCount_eq]
      exact congrArg (· + _) hbytes

/-- What is wrapped is taken for the groups of digits inside. -/
lemma Wraps.taken {w : Wrapping} {body cs : List Char} {id : Identifier} {c : Candidate}
    (h : Wraps w body cs) (hw : w ≠ .bare) (hgroups : Groups body id.groups) (htaken : Taken cs c) :
    c = { body, isGrouped := true } := by
  have hbytes : byteCount cs = groupedSize + w.size := by
    rw [h.byteCount_eq, byteCount_of_groups hgroups]
  have hsize : 0 < w.size := by
    cases w with
    | bare => exact absurd rfl hw
    | braced | urn => decide
  simp only [groupedSize] at hbytes
  cases htaken with
  | run hrun =>
    simp only [runSize] at hrun
    omega
  | grouped hgrouped =>
    simp only [groupedSize] at hgrouped
    omega
  | wrapped _ hunwrap =>
    obtain ⟨rfl, rfl⟩ := Prod.mk.inj ((h.unwrap_eq hw).symm.trans hunwrap)
    rfl
  | other hunwrap _ _ hwrapped =>
    obtain ⟨rfl, rfl⟩ := Prod.mk.inj ((h.unwrap_eq hw).symm.trans hunwrap)
    exact absurd hbytes hwrapped

lemma taken_run {cs : List Char} {c : Candidate} (h : byteCount cs = runSize) (htaken : Taken cs c) :
    c = { body := cs, isGrouped := false } := by
  cases htaken with
  | run => rfl
  | grouped hgrouped => exact absurd (h.symm.trans hgrouped) (by decide)
  | wrapped _ _ hwrapped =>
    simp only [h, runSize, groupedSize] at hwrapped
    omega
  | other _ hrun => exact absurd h hrun

lemma taken_grouped {cs : List Char} {c : Candidate} (h : byteCount cs = groupedSize)
    (htaken : Taken cs c) : c = { body := cs, isGrouped := true } := by
  cases htaken with
  | run hrun => exact absurd (h.symm.trans hrun) (by decide)
  | grouped => rfl
  | @wrapped w _ hw _ hwrapped =>
    have hsize : w.size = 0 := Nat.left_eq_add.1 (h.symm.trans hwrapped)
    cases w with
    | bare => exact absurd rfl hw
    | braced | urn => exact absurd hsize (by decide)
  | other _ _ hgrouped => exact absurd h hgrouped

namespace IsText

variable {cs : List Char} {id : Identifier}

lemma exists_groups {c : Candidate} (h : IsText IsUrnPrefix id cs) (htaken : Taken cs c) :
    ∃ dss, Groups c.body dss ∧ Layout c.isGrouped dss ∧ dss.flatten = id.digits := by
  have hgroups : ∀ {isGrouped : Bool}, Layout isGrouped id.groups :=
    .groups (map_length_groups id)
  cases h with
  | run h =>
    rw [taken_run (h.byteCount_eq.trans id.length_digits) htaken]
    exact ⟨_, .last h, .run id.length_digits, List.flatten_singleton⟩
  | grouped h =>
    rw [taken_grouped (byteCount_of_groups h) htaken]
    exact ⟨_, h, hgroups, flatten_groups id⟩
  | braced h =>
    rw [(Wraps.braced _).taken nofun h htaken]
    exact ⟨_, h, hgroups, flatten_groups id⟩
  | urn hstart h =>
    rw [(Wraps.urn hstart _).taken nofun h htaken]
    exact ⟨_, h, hgroups, flatten_groups id⟩

/-- Each kind of text has a length of its own. -/
lemma byteCount_mem (h : IsText IsUrnPrefix id cs) : byteCount cs ∈ [32, 36, 38, 45] := by
  cases h with
  | run h =>
    rw [h.byteCount_eq, id.length_digits]
    decide
  | grouped h =>
    rw [byteCount_of_groups h]
    decide
  | braced h =>
    rw [(Wraps.braced _).byteCount_eq, byteCount_of_groups h]
    decide
  | urn hstart h =>
    rw [(Wraps.urn hstart _).byteCount_eq, byteCount_of_groups h]
    decide

end IsText

/-- A text is read as an identifier exactly if it is one of the texts of the identifier. -/
lemma ofChars_eq_ok_iff {cs : List Char} {id : Identifier} :
    ofChars cs = .ok id ↔ IsText IsUrnPrefix id cs := by
  rw [ofChars_eq_ok_iff_groups]
  constructor
  · rintro ⟨-, -, dss, hdss, hlayout, hdigits⟩
    exact isText_of_groups (taken cs) hdss hlayout hdigits
  · intro h
    have hbytes := h.byteCount_mem
    refine ⟨?_, ?_, h.exists_groups (taken cs)⟩
    · rintro rfl
      exact absurd hbytes (by decide)
    · have hall : ∀ n ∈ [32, 36, 38, 45], n ≤ 45 := by decide
      exact hall _ hbytes

/-! ## The written form -/

lemma spells_map_digitChar (ds : List (Fin 16)) : Spells (ds.map digitChar) ds := by
  induction ds with
  | nil => exact .nil
  | cons d ds ih => exact .cons (.inl rfl) ih

lemma groups_intercalate {dss : List (List (Fin 16))} (h : dss ≠ []) :
    Groups (List.intercalate ['-'] (dss.map (·.map digitChar))) dss := by
  induction dss with
  | nil => exact absurd rfl h
  | cons ds dss ih =>
    rcases dss with _ | ⟨ds', dss⟩
    · simpa using Groups.last (spells_map_digitChar ds)
    · rw [List.map_cons, List.map_cons, List.intercalate_cons_cons, List.append_assoc,
        List.singleton_append]
      exact .next (spells_map_digitChar ds) (ih (List.cons_ne_nil _ _))

/-- The written form of an identifier is one of its texts. -/
lemma isText_chars (id : Identifier) : IsText IsUrnPrefix id id.chars :=
  .grouped (groups_intercalate (List.cons_ne_nil _ _))

/-- **An identifier is read back from its written form.** -/
lemma ofExactText_text (id : Identifier) : ofExactText id.text = .ok id := by
  rw [ofExactText, text, String.toList_ofList, ofChars_eq_ok_iff]
  exact isText_chars id

end PaymentPlans.Identifier
