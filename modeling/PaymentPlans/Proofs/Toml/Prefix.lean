/-
# Statements in whole lines

What is taken from whole lines is taken as well when more lines follow: strings, keys, lists,
tables and statements have their own ends.  So the statements of a text that starts with whole
lines are those of these lines, and then those of the rest.
-/
import PaymentPlans.Proofs.Toml.Lines
import PaymentPlans.Proofs.Toml.Text

namespace PaymentPlans.Toml

/-! ## Scanners that take the same when more follows -/

/-- What the first scanner takes from whole lines, the second takes when more follows; they leave
the end of a line. -/
def Follows {α : Type} (scan scan' : Scan α) : Prop :=
  ∀ lines a rest, WholeLines lines → scan lines = some (a, rest) →
    WholeLines rest ∧ ∀ more, scan' (lines ++ more) = some (a, rest ++ more)

section Follows

variable {α β : Type} {scan scan' : Scan α}

lemma IgnoresMore.follows (h : IgnoresMore scan) : Follows scan scan := by
  intro lines a rest hlines hscan
  obtain ⟨hmore, hrest⟩ := h lines hlines
  refine ⟨hrest a rest hscan, fun more => ?_⟩
  rw [hmore, hscan]
  rfl

lemma follows_some (a : α) : Follows (fun cs => some (a, cs)) fun cs => some (a, cs) :=
  (ignoresMore_some a).follows

lemma follows_none : Follows (fun _ => none) scan' := fun _ _ _ _ h => nomatch h

lemma Follows.cons (h : Follows scan scan') (c : Char) :
    Follows (fun cs => scan (c :: cs)) fun cs => scan' (c :: cs) :=
  fun lines a rest hlines => h (c :: lines) a rest (hlines.cons c)

/-- A scanner that refuses the end of a line decides on another character. -/
lemma Follows.of_cons (hnewline : ∀ cs, scan ('\n' :: cs) = none)
    (hcons : ∀ c, c ≠ '\n' → Follows (fun cs => scan (c :: cs)) fun cs => scan' (c :: cs)) :
    Follows scan scan' := by
  intro lines a rest hlines hscan
  obtain ⟨c, lines, rfl⟩ := List.exists_cons_of_ne_nil hlines.ne_nil
  by_cases hc : c = '\n'
  · subst hc
    rw [hnewline] at hscan
    exact nomatch hscan
  · exact hcons c hc lines a rest (hlines.tail hc) hscan

lemma Follows.bind (h : Follows scan scan') {next next' : α × List Char → Option (β × List Char)}
    (hnext : ∀ a, Follows (fun cs => next (a, cs)) fun cs => next' (a, cs)) :
    Follows (fun cs => scan cs >>= next) fun cs => scan' cs >>= next' := by
  intro lines b rest hlines hscan
  obtain ⟨⟨a, left⟩, hfirst, hscan⟩ := Option.bind_eq_some_iff.1 hscan
  obtain ⟨hleft, hmore⟩ := h lines a left hlines hfirst
  obtain ⟨hrest, hmore'⟩ := hnext a left b rest hleft hscan
  refine ⟨hrest, fun more => ?_⟩
  simp only [hmore]
  exact hmore' more

lemma Follows.map (h : Follows scan scan') (f : α → β) :
    Follows (fun cs => (scan cs).map fun (a, rest) => (f a, rest))
      fun cs => (scan' cs).map fun (a, rest) => (f a, rest) := by
  intro lines b rest hlines hscan
  obtain ⟨⟨a, left⟩, hfirst, hpair⟩ := Option.map_eq_some_iff.1 hscan
  obtain ⟨rfl, rfl⟩ := Prod.mk.inj hpair
  obtain ⟨hleft, hmore⟩ := h lines a left hlines hfirst
  refine ⟨hleft, fun more => ?_⟩
  simp only [hmore, Option.map_some]

/-- One scanner or another, as a third one takes something or refuses. -/
lemma IgnoresMore.followsElim {other other' : Scan β} {next next' : α → Scan β}
    (h : IgnoresMore scan) (hother : Follows other other') (hnext : ∀ a, Follows (next a) (next' a)) :
    Follows (fun cs => (scan cs).elim (other cs) fun (a, rest) => next a rest)
      fun cs => (scan cs).elim (other' cs) fun (a, rest) => next' a rest := by
  intro lines b rest hlines hscan
  obtain ⟨hmore, hleft⟩ := h lines hlines
  rcases hfirst : scan lines with _ | ⟨a, left⟩
  · simp only [hfirst, Option.elim_none] at hscan
    simp only [hmore, hfirst, Option.map_none, Option.elim_none]
    exact hother lines b rest hlines hscan
  · simp only [hfirst, Option.elim_some] at hscan
    simp only [hmore, hfirst, Option.map_some, Option.elim_some]
    exact hnext a left b rest (hleft a left hfirst) hscan

/-- More fuel does no harm, and a longer text gives more of it. -/
lemma Follows.of_fuel {scan : Nat → Scan α} (h : ∀ {n m}, n ≤ m → Follows (scan n) (scan m)) :
    Follows (fun cs => scan (cs.length + 1) cs) fun cs => scan (cs.length + 1) cs := by
  intro lines a rest hlines hscan
  refine ⟨(h (Nat.le_refl _) lines a rest hlines hscan).1, fun more => ?_⟩
  refine (h (Nat.succ_le_succ ?_) lines a rest hlines hscan).2 more
  rw [List.length_append]
  exact Nat.le_add_right _ _

/-- What is left out before a scanner may be left out of whole lines. -/
lemma Follows.comp (h : Follows scan scan') (hnil : scan [] = none) {skip : List Char → List Char}
    (hskip : ∀ lines, WholeLines lines → skip lines = [] ∨ WholeLines (skip lines) ∧
      ∀ more, skip (lines ++ more) = skip lines ++ more) :
    Follows (fun cs => scan (skip cs)) fun cs => scan' (skip cs) := by
  intro lines a rest hlines hscan
  rcases hskip lines hlines with hend | ⟨hleft, hmore⟩
  · simp only [hend, hnil] at hscan
    exact nomatch hscan
  · simp only [hmore]
    exact h (skip lines) a rest hleft hscan

end Follows

/-! ## Gaps, comments, and ends of lines -/

section Layout

variable {lines : List Char}

lemma skipGap_lines (h : WholeLines lines) :
    WholeLines (skipGap lines) ∧ ∀ more, skipGap (lines ++ more) = skipGap lines ++ more :=
  dropWhile_lines rfl h

lemma Follows.skipGap {α : Type} {scan scan' : Scan α} (h : Follows scan scan') :
    Follows (fun cs => scan (skipGap cs)) fun cs => scan' (skipGap cs) := by
  intro lines a rest hlines hscan
  obtain ⟨hleft, hmore⟩ := skipGap_lines hlines
  simp only [hmore]
  exact h _ a rest hleft hscan

lemma IgnoresMore.skipGap {α : Type} {scan : Scan α} (h : IgnoresMore scan) :
    IgnoresMore fun cs => scan (skipGap cs) := by
  intro lines hlines
  obtain ⟨hleft, hmore⟩ := skipGap_lines hlines
  simp only [hmore]
  exact h _ hleft

lemma skipComment_lines (h : WholeLines lines) :
    WholeLines (skipComment lines) ∧
      ∀ more, skipComment (lines ++ more) = skipComment lines ++ more := by
  obtain ⟨c, lines, rfl⟩ := List.exists_cons_of_ne_nil h.ne_nil
  by_cases hc : c = '#'
  · subst hc
    exact dropWhile_lines rfl (h.tail (by decide))
  · have hself : ∀ cs, skipComment (c :: cs) = c :: cs := fun cs =>
      skipComment.eq_2 _ fun _ heq => hc (List.cons.inj heq).1
    rw [hself]
    exact ⟨h, fun more => hself (lines ++ more)⟩

/-- The end of a line is settled by whole lines, and it may be the last of them. -/
lemma scanNewline_lines (h : WholeLines lines) :
    (∀ more, scanNewline (lines ++ more) = (scanNewline lines).map fun (_, rest) =>
      ((), rest ++ more)) ∧
    ∀ rest, scanNewline lines = some ((), rest) → rest = [] ∨ WholeLines rest := by
  obtain ⟨c, lines, rfl⟩ := List.exists_cons_of_ne_nil h.ne_nil
  by_cases hc : c = '\n'
  · subst hc
    refine ⟨fun _ => rfl, fun rest hrest => ?_⟩
    obtain ⟨-, rfl⟩ := Prod.mk.inj (Option.some.inj hrest)
    exact h.eq_nil_or_tail
  · have htail := h.tail hc
    obtain ⟨d, lines, rfl⟩ := List.exists_cons_of_ne_nil htail.ne_nil
    by_cases hreturn : c = '\r' ∧ d = '\n'
    · obtain ⟨rfl, rfl⟩ := hreturn
      refine ⟨fun _ => rfl, fun rest hrest => ?_⟩
      obtain ⟨-, rfl⟩ := Prod.mk.inj (Option.some.inj hrest)
      exact htail.eq_nil_or_tail
    · have hnone : ∀ cs, scanNewline (c :: d :: cs) = none := by
        intro cs
        rw [scanNewline.eq_3]
        · rintro _ ⟨⟩
          exact hc rfl
        · rintro _ ⟨⟩
          exact hreturn ⟨rfl, rfl⟩
      refine ⟨fun more => ?_, fun rest hrest => ?_⟩
      · rw [List.cons_append, List.cons_append, hnone, hnone, Option.map_none]
      · rw [hnone] at hrest
        cases hrest

section Newline

variable {α : Type} {next next' other other' : Scan α}

/-- A scanner behind the end of a line, and another one where no line ends. -/
lemma Follows.newlineElim (h : Follows next next') (hnil : next [] = none)
    (hother : Follows other other') {skip : List Char → List Char}
    (hskip : ∀ lines, WholeLines lines → WholeLines (skip lines) ∧
      ∀ more, skip (lines ++ more) = skip lines ++ more) :
    Follows (fun cs => (scanNewline (skip cs)).elim (other cs) fun (_, cs) => next cs)
      fun cs => (scanNewline (skip cs)).elim (other' cs) fun (_, cs) => next' cs := by
  intro lines a rest hlines hscan
  obtain ⟨hskipped, hskipMore⟩ := hskip lines hlines
  obtain ⟨hmore, hleft⟩ := scanNewline_lines hskipped
  rcases hnewline : scanNewline (skip lines) with _ | ⟨_, left⟩
  · simp only [hnewline, Option.elim_none] at hscan
    simp only [hskipMore, hmore, hnewline, Option.map_none, Option.elim_none]
    exact hother lines a rest hlines hscan
  · simp only [hnewline, Option.elim_some] at hscan
    simp only [hskipMore, hmore, hnewline, Option.map_some, Option.elim_some]
    rcases hleft left hnewline with rfl | hlines'
    · rw [hnil] at hscan
      exact nomatch hscan
    · exact h left a rest hlines' hscan

end Newline

/-- Of whole lines gaps and ends of lines are left out alike, whatever follows, unless nothing is
left of them. -/
lemma skipLines_lines (h : WholeLines lines) : skipLines lines = [] ∨ WholeLines (skipLines lines) ∧
    ∀ more, skipLines (lines ++ more) = skipLines lines ++ more := by
  -- A carriage return before whole lines has a character behind it.
  have hreturnMore : ∀ {c cs}, WholeLines (c :: cs) → (∀ ds, c = '\r' → cs = '\n' :: ds → False) →
      ∀ more ds, c = '\r' → cs ++ more = '\n' :: ds → False := by
    rintro _ cs hlines hreturn more ds rfl heq
    obtain ⟨d, es, rfl⟩ := List.exists_cons_of_ne_nil (hlines.tail (by decide)).ne_nil
    obtain ⟨rfl, -⟩ := List.cons.inj heq
    exact hreturn es rfl rfl
  induction lines using skipLines.induct with
  | case1 cs ih =>
    rw [skipLines]
    rcases (h.tail (by decide)).eq_nil_or_tail with rfl | htail
    · exact .inl rfl
    · exact ih htail
  | case2 c cs hreturn hc ih =>
    rw [skipLines.eq_2 _ _ hreturn, if_pos hc]
    rcases h.eq_nil_or_tail with rfl | htail
    · exact .inl rfl
    · refine (ih htail).imp id fun ⟨hrest, hmore⟩ => ⟨hrest, fun more => ?_⟩
      rw [List.cons_append, skipLines.eq_2 _ _ (hreturnMore h hreturn more), if_pos hc, hmore]
  | case3 c cs hreturn hc =>
    rw [skipLines.eq_2 _ _ hreturn, if_neg hc]
    refine .inr ⟨h, fun more => ?_⟩
    rw [List.cons_append, skipLines.eq_2 _ _ (hreturnMore h hreturn more), if_neg hc]
  | case4 => exact absurd rfl h.ne_nil

/-! ### Layout -/

lemma length_lt_of_scanNewline {cs rest : List Char} (h : scanNewline cs = some ((), rest)) :
    rest.length < cs.length := by
  unfold scanNewline at h
  split at h
  · obtain ⟨-, rfl⟩ := Prod.mk.inj (Option.some.inj h)
    exact Nat.lt_succ_self _
  · obtain ⟨-, rfl⟩ := Prod.mk.inj (Option.some.inj h)
    exact Nat.lt_succ_of_lt (Nat.lt_succ_self _)
  · exact nomatch h

lemma length_skipGap_le (cs : List Char) : (skipGap cs).length ≤ cs.length :=
  (List.dropWhile_suffix _).length_le

lemma length_skipComment_le (cs : List Char) : (skipComment cs).length ≤ cs.length := by
  unfold skipComment
  split
  · exact Nat.le_succ_of_le (List.dropWhile_suffix _).length_le
  · exact Nat.le_refl _

/-- Fuel beyond the length of a text does not matter. -/
lemma skipLayoutFuel_eq {n m : Nat} {cs : List Char} (hn : cs.length < n) (hm : cs.length < m) :
    skipLayoutFuel n cs = skipLayoutFuel m cs := by
  induction n generalizing m cs with
  | zero => exact absurd hn (Nat.not_lt_zero _)
  | succ n ih =>
    obtain ⟨m, rfl⟩ := Nat.exists_eq_add_one_of_ne_zero (Nat.ne_of_gt (Nat.zero_lt_of_lt hm))
    rw [skipLayoutFuel, skipLayoutFuel]
    rcases hnewline : scanNewline (skipComment (skipGap cs)) with _ | ⟨_, rest⟩
    · rfl
    · have hlt := length_lt_of_scanNewline hnewline
      have hcomment := length_skipComment_le (skipGap cs)
      have hgap := length_skipGap_le cs
      exact ih (by omega) (by omega)

/-- What is left out of a text: its first line, if it holds nothing else, and then the same of the
other lines. -/
lemma skipLayout_eq (cs : List Char) : skipLayout cs =
    (scanNewline (skipComment (skipGap cs))).elim (skipGap cs) fun (_, rest) => skipLayout rest := by
  rw [skipLayout, skipLayoutFuel]
  rcases hnewline : scanNewline (skipComment (skipGap cs)) with _ | ⟨_, rest⟩
  · rfl
  · have hlt := length_lt_of_scanNewline hnewline
    have hcomment := length_skipComment_le (skipGap cs)
    have hgap := length_skipGap_le cs
    exact skipLayoutFuel_eq (by omega) (by omega)

/-- Of whole lines layout is left out alike, whatever follows; if all of it is layout, the layout
of what follows is left out as well. -/
lemma skipLayout_lines (h : WholeLines lines) :
    (skipLayout lines = [] ∧ ∀ more, skipLayout (lines ++ more) = skipLayout more) ∨
      WholeLines (skipLayout lines) ∧
        ∀ more, skipLayout (lines ++ more) = skipLayout lines ++ more := by
  induction hlength : lines.length using Nat.strong_induction_on generalizing lines with
  | _ n ih =>
    obtain ⟨hgap, hgapMore⟩ := skipGap_lines h
    obtain ⟨hcomment, hcommentMore⟩ := skipComment_lines hgap
    obtain ⟨hmore, hrest⟩ := scanNewline_lines hcomment
    have heq : ∀ more, skipLayout (lines ++ more) =
        (scanNewline (skipComment (skipGap lines))).elim (skipGap lines ++ more)
          fun (_, rest) => skipLayout (rest ++ more) := by
      intro more
      rw [skipLayout_eq, hgapMore, hcommentMore, hmore]
      cases scanNewline (skipComment (skipGap lines)) <;> rfl
    have hself := heq []
    simp only [List.append_nil] at hself
    rcases hnewline : scanNewline (skipComment (skipGap lines)) with _ | ⟨_, rest⟩
    · simp only [hnewline, Option.elim_none] at heq hself
      rw [hself]
      exact .inr ⟨hgap, heq⟩
    · simp only [hnewline, Option.elim_some] at heq hself
      rw [hself]
      simp only [heq]
      rcases hrest rest hnewline with rfl | hlines
      · exact .inl ⟨rfl, fun _ => rfl⟩
      · have hlt := length_lt_of_scanNewline hnewline
        have hlengthComment := length_skipComment_le (skipGap lines)
        have hlengthGap := length_skipGap_le lines
        exact ih rest.length (by omega) hlines rfl

lemma Follows.skipLayout {α : Type} {scan scan' : Scan α} (h : Follows scan scan')
    (hnil : scan [] = none) : Follows (fun cs => scan (skipLayout cs)) fun cs => scan' (skipLayout cs) :=
  h.comp hnil fun _ hlines => (skipLayout_lines hlines).imp And.left id

end Layout

/-! ## Strings -/

/-- Hexadecimal digits stand on one line, and each has its value. -/
lemma of_mapM_hexDigit? {cs : List Char} {ds : List Nat} (h : cs.mapM hexDigit? = some ds) :
    ds.length = cs.length ∧ '\n' ∉ cs := by
  induction cs generalizing ds with
  | nil =>
    obtain rfl := Option.some.inj h
    exact ⟨rfl, List.not_mem_nil⟩
  | cons c cs ih =>
    rw [List.mapM_cons] at h
    obtain ⟨d, hd, h⟩ := Option.bind_eq_some_iff.1 h
    obtain ⟨es, hes, h⟩ := Option.bind_eq_some_iff.1 h
    obtain rfl := Option.some.inj h
    obtain ⟨hlength, hnewline⟩ := ih hes
    refine ⟨congrArg (· + 1) hlength, ?_⟩
    rw [List.mem_cons, not_or]
    refine ⟨?_, hnewline⟩
    rintro rfl
    exact nomatch hd

lemma follows_scanNumbered (count : Nat) : Follows (scanNumbered count) (scanNumbered count) := by
  intro lines c rest hlines hscan
  obtain ⟨ds, hdigits, hscan⟩ := Option.bind_eq_some_iff.1 hscan
  obtain ⟨hlength, hnewline⟩ := of_mapM_hexDigit? hdigits
  split at hscan
  · next hcount =>
    have hshort : count < lines.length := by
      rw [hcount, List.length_take] at hlength
      refine Nat.lt_of_le_of_ne (by omega) fun heq => hnewline ?_
      rw [heq, List.take_length]
      exact hlines.newline_mem
    obtain ⟨d, hchar, hpair⟩ := Option.bind_eq_some_iff.1 hscan
    obtain ⟨rfl, rfl⟩ := Prod.mk.inj (Option.some.inj hpair)
    have hsplit : WholeLines (lines.take count ++ lines.drop count) := by
      rwa [List.take_append_drop]
    refine ⟨hsplit.of_append ?_, fun more => ?_⟩
    · exact List.ne_nil_of_length_pos (by rw [List.length_drop]; omega)
    · rw [scanNumbered, List.take_append_of_le_length (Nat.le_of_lt hshort), hdigits,
        List.drop_append_of_le_length (Nat.le_of_lt hshort)]
      simp only [Option.bind_eq_bind, Option.bind_some, if_pos hcount, hchar]
      rfl
  · cases hscan

lemma follows_scanEscape : Follows scanEscape scanEscape := by
  refine .of_cons (fun _ => rfl) fun c _ => ?_
  by_cases hu : c = 'u'
  · subst hu
    exact follows_scanNumbered 4
  by_cases hU : c = 'U'
  · subst hU
    exact follows_scanNumbered 8
  have hother : ∀ cs, scanEscape (c :: cs) = (shortEscape? c).map fun d => (d, cs) := fun cs =>
    scanEscape.eq_4 c cs hu hU
  simp only [hother]
  rcases shortEscape? c with _ | d
  · exact follows_none
  · exact follows_some d

variable {quote : Quote}

lemma follows_scanShortFuel {n m : Nat} (h : n ≤ m) :
    Follows (scanShortFuel quote n) (scanShortFuel quote m) := by
  induction n generalizing m with
  | zero => exact follows_none
  | succ n ih =>
    obtain ⟨m, rfl⟩ : ∃ k, m = k + 1 := ⟨m - 1, by omega⟩
    have hothers := ih (Nat.le_of_succ_le_succ h)
    refine .of_cons (fun cs => ?_) fun c _ => ?_
    · cases quote <;> rfl
    by_cases hquote : c = quote.char
    · simp only [scanShortFuel, if_pos hquote]
      exact follows_some []
    by_cases hescape : c = '\\' ∧ quote = .double
    · simp only [scanShortFuel, if_neg hquote, if_pos hescape]
      refine follows_scanEscape.bind fun d => ?_
      dsimp only
      exact hothers.bind fun ds => follows_some (d :: ds)
    by_cases hshown : isShown c
    · simp only [scanShortFuel, if_neg hquote, if_neg hescape, if_pos hshown]
      exact hothers.map _
    · simp only [scanShortFuel, if_neg hquote, if_neg hescape, if_neg hshown]
      exact follows_none

lemma follows_scanShort : Follows (scanShort quote) (scanShort quote) :=
  .of_fuel follows_scanShortFuel

/-- A quote in a long string: with those behind it, it ends the string or belongs to it. -/
lemma Follows.quotes {scan scan' : Scan (List Char)} (h : Follows scan scan') :
    Follows (fun cs =>
      let more := cs.takeWhile (· == quote.char)
      let rest := cs.drop more.length
      if 5 ≤ more.length then none
      else if 2 ≤ more.length then some (more.drop 2, rest)
      else (scan rest).map fun (ds, cs) => (quote.char :: (more ++ ds), cs)) fun cs =>
      let more := cs.takeWhile (· == quote.char)
      let rest := cs.drop more.length
      if 5 ≤ more.length then none
      else if 2 ≤ more.length then some (more.drop 2, rest)
      else (scan' rest).map fun (ds, cs) => (quote.char :: (more ++ ds), cs) := by
  intro lines a rest hlines hscan
  have hnewline : ('\n' == quote.char) = false := by cases quote <;> rfl
  obtain ⟨hleft, hmore⟩ := dropWhile_lines (p := (· == quote.char)) hnewline hlines
  have htake := takeWhile_append_lines (p := (· == quote.char)) hnewline hlines
  have hdrop : ∀ more, (lines ++ more).drop (lines.takeWhile (· == quote.char)).length =
      lines.dropWhile (· == quote.char) ++ more := fun more => by
    rw [← htake more, drop_length_takeWhile, hmore]
  simp only [drop_length_takeWhile] at hscan
  simp only [htake, hdrop]
  split at hscan
  · exact nomatch hscan
  · next hfew =>
    simp only [if_neg hfew]
    split at hscan
    · next hend =>
      obtain ⟨rfl, rfl⟩ := Prod.mk.inj (Option.some.inj hscan)
      simp only [if_pos hend]
      exact ⟨hleft, fun _ => trivial⟩
    · next hend =>
      simp only [if_neg hend]
      exact h.map (fun ds => quote.char :: (lines.takeWhile (· == quote.char) ++ ds)) _ a rest hleft
        hscan

/-- Behind a backslash, what is left out of the text ends a line, else it is taken as one
character. -/
lemma scanLongFuel_escape {c : Char} (hquote : c ≠ quote.char)
    (hescape : c = '\\' ∧ quote = .double) (k : Nat) :
    (fun cs => scanLongFuel quote (k + 1) (c :: cs)) = fun cs =>
      (scanNewline (skipGap cs)).elim (scanEscape cs >>= fun (d, cs) =>
        scanLongFuel quote k cs >>= fun (ds, cs) => some (d :: ds, cs))
        fun (_, cs) => scanLongFuel quote k (skipLines cs) := by
  funext cs
  rw [scanLongFuel, if_neg hquote, if_pos hescape]
  cases scanNewline (skipGap cs) <;> rfl

/-- Where nothing is shown a line must end. -/
lemma scanLongFuel_hidden {c : Char} (hquote : c ≠ quote.char)
    (hescape : ¬ (c = '\\' ∧ quote = .double)) (hshown : ¬ isShown c) (k : Nat) :
    (fun cs => scanLongFuel quote (k + 1) (c :: cs)) = fun cs =>
      (scanNewline (c :: cs)).elim none fun (_, cs) =>
        (scanLongFuel quote k cs).map fun (ds, cs) => ('\n' :: ds, cs) := by
  funext cs
  rw [scanLongFuel, if_neg hquote, if_neg hescape, if_neg hshown]
  rcases scanNewline (c :: cs) with _ | ⟨_, rest⟩
  · rfl
  · simp only [Option.bind_eq_bind, Option.bind_some, Option.elim_some]
    cases scanLongFuel quote k rest <;> rfl

lemma follows_scanLongFuel {n m : Nat} (h : n ≤ m) :
    Follows (scanLongFuel quote n) (scanLongFuel quote m) := by
  induction n generalizing m with
  | zero => exact follows_none
  | succ n ih =>
    obtain ⟨m, rfl⟩ : ∃ k, m = k + 1 := ⟨m - 1, by omega⟩
    have hothers := ih (Nat.le_of_succ_le_succ h)
    have hnil : scanLongFuel quote n [] = none := by cases n <;> rfl
    have hjoined := hothers.comp hnil fun _ => skipLines_lines
    intro lines a rest hlines hscan
    obtain ⟨c, lines, rfl⟩ := List.exists_cons_of_ne_nil hlines.ne_nil
    by_cases hnewline : c = '\n'
    · subst hnewline
      rw [scanLongFuel_newline] at hscan
      simp only [List.cons_append, scanLongFuel_newline]
      rcases hlines.eq_nil_or_tail with rfl | htail
      · rw [hnil] at hscan
        cases hscan
      · exact hothers.map ('\n' :: ·) lines a rest htail hscan
    have htail := hlines.tail hnewline
    by_cases hquote : c = quote.char
    · subst hquote
      simp only [List.cons_append, scanLongFuel, if_true] at hscan ⊢
      exact hothers.quotes lines a rest htail hscan
    by_cases hescape : c = '\\' ∧ quote = .double
    · have hescaped : Follows (fun cs => scanLongFuel quote (n + 1) (c :: cs))
          fun cs => scanLongFuel quote (m + 1) (c :: cs) := by
        rw [scanLongFuel_escape hquote hescape, scanLongFuel_escape hquote hescape]
        refine hjoined.newlineElim hnil (follows_scanEscape.bind fun d => ?_) fun _ => skipGap_lines
        exact hothers.bind fun ds => follows_some (d :: ds)
      exact hescaped lines a rest htail hscan
    by_cases hshown : isShown c
    · simp only [List.cons_append, scanLongFuel, if_neg hquote, if_neg hescape, if_pos hshown]
        at hscan ⊢
      exact hothers.map (c :: ·) lines a rest htail hscan
    · have hline : Follows (fun cs => scanLongFuel quote (n + 1) (c :: cs))
          fun cs => scanLongFuel quote (m + 1) (c :: cs) := by
        rw [scanLongFuel_hidden hquote hescape hshown, scanLongFuel_hidden hquote hescape hshown]
        refine (hothers.map ('\n' :: ·)).newlineElim ?_ follows_none fun _ hlines =>
          ⟨hlines.cons c, fun _ => rfl⟩
        rw [hnil, Option.map_none]
      exact hline lines a rest htail hscan

lemma follows_scanLong : Follows (scanLong quote) (scanLong quote) := by
  have hbody : Follows (fun cs => scanLongFuel quote (cs.length + 1) cs)
      fun cs => scanLongFuel quote (cs.length + 1) cs := .of_fuel follows_scanLongFuel
  have heq : scanLong quote = fun cs => (scanNewline (id cs)).elim
      (scanLongFuel quote (cs.length + 1) cs) fun (_, cs) =>
        scanLongFuel quote (cs.length + 1) cs := by
    funext cs
    rw [id, scanLong]
    cases scanNewline cs <;> rfl
  rw [heq]
  exact hbody.newlineElim rfl hbody fun _ hlines => ⟨hlines, fun _ => rfl⟩

lemma follows_scanString : Follows (scanString quote) (scanString quote) := by
  have hopening : '\n' ∉ [quote.char, quote.char, quote.char] := by cases quote <;> decide
  have hshort : Follows (fun cs => scanChar quote.char cs >>= fun (_, cs) => scanShort quote cs)
      fun cs => scanChar quote.char cs >>= fun (_, cs) => scanShort quote cs := by
    have hquote : quote.char ≠ '\n' := by cases quote <;> decide
    exact (ignoresMore_scanChar hquote).follows.bind fun _ => follows_scanShort
  have heq : scanString quote = fun cs =>
      ((scanWord [quote.char, quote.char, quote.char] cs).elim
        (scanChar quote.char cs >>= fun (_, cs) => scanShort quote cs)
          fun (_, cs) => scanLong quote cs).map fun (ds, rest) => (String.ofList ds, rest) := by
    funext cs
    simp only [scanString, scanWord]
    split <;> rfl
  rw [heq]
  exact ((ignoresMore_scanWord hopening).followsElim hshort fun _ => follows_scanLong).map
    String.ofList

/-! ## Keys -/

lemma follows_scanPart : Follows scanPart scanPart := by
  refine .of_cons (fun _ => rfl) fun c _ => ?_
  by_cases hdouble : c = '"'
  · simp only [scanPart, if_pos hdouble]
    exact follows_scanShort.map String.ofList
  by_cases hsingle : c = '\''
  · simp only [scanPart, if_neg hdouble, if_pos hsingle]
    exact follows_scanShort.map String.ofList
  by_cases hbare : isBare c
  · simp only [scanPart, if_neg hdouble, if_neg hsingle, if_pos hbare]
    intro lines a rest hlines hscan
    obtain ⟨hleft, hmore⟩ := dropWhile_lines (p := isBare) rfl hlines
    obtain ⟨rfl, rfl⟩ := Prod.mk.inj (Option.some.inj hscan)
    refine ⟨hleft, fun more => ?_⟩
    simp only [hmore, takeWhile_append_lines (p := isBare) rfl hlines]
  · simp only [scanPart, if_neg hdouble, if_neg hsingle, if_neg hbare]
    exact follows_none

/-- Behind a part of a key there is a dot and more parts, or the key ends. -/
lemma scanPartsFuel_eq (fuel : Nat) : scanPartsFuel (fuel + 1) = fun cs =>
    scanPart (skipGap cs) >>= fun (part, cs) =>
      (scanChar '.' (skipGap cs)).elim (some ([part], skipGap cs)) fun (_, cs) =>
        scanPartsFuel fuel cs >>= fun (parts, cs) => some (part :: parts, cs) := by
  funext cs
  rw [scanPartsFuel]
  rcases scanPart (skipGap cs) with _ | ⟨part, cs⟩
  · rfl
  simp only [Option.bind_eq_bind, Option.bind_some]
  rcases skipGap cs with _ | ⟨c, cs⟩
  · rfl
  by_cases hc : c = '.'
  · subst hc
    rfl
  · rw [scanChar, if_neg hc]
    split
    · next heq => exact absurd (List.cons.inj heq).1 hc
    · rfl

lemma follows_scanPartsFuel {n m : Nat} (h : n ≤ m) :
    Follows (scanPartsFuel n) (scanPartsFuel m) := by
  induction n generalizing m with
  | zero => exact follows_none
  | succ n ih =>
    obtain ⟨m, rfl⟩ : ∃ k, m = k + 1 := ⟨m - 1, by omega⟩
    have hothers := ih (Nat.le_of_succ_le_succ h)
    have hdot : '.' ≠ '\n' := by decide
    rw [scanPartsFuel_eq, scanPartsFuel_eq]
    refine follows_scanPart.skipGap.bind fun part => ?_
    exact ((ignoresMore_scanChar hdot).followsElim (follows_some [part]) fun _ =>
      hothers.bind fun parts => follows_some (part :: parts)).skipGap

lemma follows_scanKey : Follows scanKey scanKey := by
  refine Follows.bind (.of_fuel follows_scanPartsFuel) fun parts => ?_
  dsimp only
  rcases parts.getLast? with _ | last
  · exact follows_none
  by_cases hparts : parts.length ≤ maxParts
  · simp only [if_pos hparts]
    exact follows_some _
  · simp only [if_neg hparts]
    exact follows_none

/-! ## Lists and tables -/

section Items

variable {scanItem : Scan Value}

/-- What is taken behind an item of a list: a comma and more items, or the end. -/
def scanBehindItem (scanItem : Scan Value) (fuel : Nat) (item : Value) : Scan (List Value) :=
  fun cs => (scanChar ',' cs).elim ((scanChar ']' cs).map fun (_, cs) => ([item], cs))
    fun (_, cs) => scanItemsFuel scanItem fuel cs >>= fun (items, cs) => some (item :: items, cs)

/-- What is taken at the front of a list: its end, or an item and what is behind it. -/
def scanFront (scanItem : Scan Value) (fuel : Nat) : Scan (List Value) := fun cs =>
  (scanChar ']' cs).elim (scanItem cs >>= fun (item, cs) =>
    scanBehindItem scanItem fuel item (skipLayout cs)) fun (_, rest) => some ([], rest)

lemma scanBehindItem_eq_match (fuel : Nat) (item : Value) (cs : List Char) : (match cs with
    | ',' :: cs => do
      let (items, cs) ← scanItemsFuel scanItem fuel cs
      return (item :: items, cs)
    | ']' :: cs => return ([item], cs)
    | _ => none) = scanBehindItem scanItem fuel item cs := by
  rw [scanBehindItem]
  rcases cs with _ | ⟨c, cs⟩
  · rfl
  by_cases hcomma : c = ','
  · subst hcomma
    rfl
  by_cases hend : c = ']'
  · subst hend
    rfl
  rw [scanChar, if_neg hcomma, scanChar, if_neg hend]
  split
  · next heq => exact absurd (List.cons.inj heq).1 hcomma
  · next heq => exact absurd (List.cons.inj heq).1 hend
  · rfl

lemma scanItem_bind_eq (fuel : Nat) (ds : List Char) : (do
    let (item, cs) ← scanItem ds
    match skipLayout cs with
    | ',' :: cs => do
      let (items, cs) ← scanItemsFuel scanItem fuel cs
      return (item :: items, cs)
    | ']' :: cs => return ([item], cs)
    | _ => none) = scanItem ds >>= fun (item, cs) =>
      scanBehindItem scanItem fuel item (skipLayout cs) :=
  congrArg (scanItem ds >>= ·) (funext fun p => scanBehindItem_eq_match fuel p.1 (skipLayout p.2))

lemma scanItemsFuel_eq (fuel : Nat) : scanItemsFuel scanItem (fuel + 1) = fun cs =>
    scanFront scanItem fuel (skipLayout cs) := by
  funext cs
  rw [scanItemsFuel, scanFront]
  rcases skipLayout cs with _ | ⟨c, ds⟩
  · exact scanItem_bind_eq fuel []
  by_cases hend : c = ']'
  · subst hend
    rfl
  rw [scanChar, if_neg hend]
  split
  · next heq => exact absurd (List.cons.inj heq).1 hend
  · exact scanItem_bind_eq fuel (c :: ds)

lemma follows_scanItemsFuel (h : Follows scanItem scanItem) (hnil : scanItem [] = none) {n m : Nat}
    (hle : n ≤ m) : Follows (scanItemsFuel scanItem n) (scanItemsFuel scanItem m) := by
  induction n generalizing m with
  | zero => exact follows_none
  | succ n ih =>
    obtain ⟨m, rfl⟩ : ∃ k, m = k + 1 := ⟨m - 1, by omega⟩
    have hothers := ih (Nat.le_of_succ_le_succ hle)
    have hend : IgnoresMore (scanChar ']') := ignoresMore_scanChar (by decide)
    have hcomma : IgnoresMore (scanChar ',') := ignoresMore_scanChar (by decide)
    have hbehind : ∀ item, Follows (scanBehindItem scanItem n item)
        (scanBehindItem scanItem m item) := fun item =>
      hcomma.followsElim (hend.follows.map fun _ => [item]) fun _ =>
        hothers.bind fun items => follows_some (item :: items)
    have hfront : Follows (scanFront scanItem n) (scanFront scanItem m) :=
      hend.followsElim (h.bind fun item => (hbehind item).skipLayout rfl) fun _ => follows_some []
    have hfrontNil : scanFront scanItem n [] = none := by
      rw [scanFront, hnil]
      rfl
    rw [scanItemsFuel_eq, scanItemsFuel_eq]
    exact hfront.skipLayout hfrontNil

/-- What is taken behind a member of a table: a comma and more members, or the end. -/
def scanBehindMember (scanItem : Scan Value) (fuel : Nat) (key : Key) (value : Value) :
    Scan (List (Key × Value)) := fun cs =>
  (scanChar ',' cs).elim ((scanChar '\x7d' cs).map fun (_, cs) => ([(key, value)], cs))
    fun (_, cs) => scanMembersFuel scanItem fuel cs >>= fun (members, cs) =>
      some ((key, value) :: members, cs)

lemma scanBehindMember_eq_match (fuel : Nat) (key : Key) (value : Value) (cs : List Char) :
    (match cs with
    | ',' :: cs => do
      let (members, cs) ← scanMembersFuel scanItem fuel cs
      return ((key, value) :: members, cs)
    | '\x7d' :: cs => return ([(key, value)], cs)
    | _ => none) = scanBehindMember scanItem fuel key value cs := by
  rw [scanBehindMember]
  rcases cs with _ | ⟨c, cs⟩
  · rfl
  by_cases hcomma : c = ','
  · subst hcomma
    rfl
  by_cases hend : c = '\x7d'
  · subst hend
    rfl
  rw [scanChar, if_neg hcomma, scanChar, if_neg hend]
  split
  · next heq => exact absurd (List.cons.inj heq).1 hcomma
  · next heq => exact absurd (List.cons.inj heq).1 hend
  · rfl

lemma scanMembersFuel_eq (fuel : Nat) : scanMembersFuel scanItem (fuel + 1) = fun cs =>
    scanKey cs >>= fun (key, cs) => scanChar '=' cs >>= fun (_, cs) =>
      scanItem (skipGap cs) >>= fun (value, cs) =>
        scanBehindMember scanItem fuel key value (skipGap cs) := by
  funext cs
  rw [scanMembersFuel]
  refine congrArg (scanKey cs >>= ·) (funext fun key => ?_)
  refine congrArg (scanChar '=' key.2 >>= ·) (funext fun behind => ?_)
  exact congrArg (scanItem (skipGap behind.2) >>= ·) (funext fun value =>
    scanBehindMember_eq_match fuel key.1 value.1 _)

lemma follows_scanMembersFuel (h : Follows scanItem scanItem) {n m : Nat} (hle : n ≤ m) :
    Follows (scanMembersFuel scanItem n) (scanMembersFuel scanItem m) := by
  induction n generalizing m with
  | zero => exact follows_none
  | succ n ih =>
    obtain ⟨m, rfl⟩ : ∃ k, m = k + 1 := ⟨m - 1, by omega⟩
    have hothers := ih (Nat.le_of_succ_le_succ hle)
    have hend : IgnoresMore (scanChar '\x7d') := ignoresMore_scanChar (by decide)
    have hcomma : IgnoresMore (scanChar ',') := ignoresMore_scanChar (by decide)
    have hequals : IgnoresMore (scanChar '=') := ignoresMore_scanChar (by decide)
    have hbehind : ∀ key value, Follows (scanBehindMember scanItem n key value)
        (scanBehindMember scanItem m key value) := fun key value =>
      hcomma.followsElim (hend.follows.map fun _ => [(key, value)]) fun _ =>
        hothers.bind fun members => follows_some ((key, value) :: members)
    rw [scanMembersFuel_eq, scanMembersFuel_eq]
    exact follows_scanKey.bind fun key => hequals.follows.bind fun _ =>
      h.skipGap.bind fun value => (hbehind key value).skipGap

lemma follows_scanMembers (h : Follows scanItem scanItem) :
    Follows (scanMembers scanItem) (scanMembers scanItem) := by
  have hend : IgnoresMore (scanChar '\x7d') := ignoresMore_scanChar (by decide)
  have hmembers : Follows (fun cs => scanMembersFuel scanItem (cs.length + 1) cs)
      fun cs => scanMembersFuel scanItem (cs.length + 1) cs := .of_fuel (follows_scanMembersFuel h)
  have heq : scanMembers scanItem = fun cs => (scanChar '\x7d' (skipGap cs)).elim
      (scanMembersFuel scanItem (cs.length + 1) cs) fun (_, rest) => some ([], rest) := by
    funext cs
    rw [scanMembers]
    rcases skipGap cs with _ | ⟨c, ds⟩
    · rfl
    by_cases hc : c = '\x7d'
    · subst hc
      rfl
    rw [scanChar, if_neg hc]
    split
    · next heq => exact absurd (List.cons.inj heq).1 hc
    · rfl
  rw [heq]
  exact hend.skipGap.followsElim hmembers fun _ => follows_some []

end Items

/-! ## Values -/

lemma scanMoment_newline (limits : Limits) (cs : List Char) :
    scanMoment limits ('\n' :: cs) = none := by
  have hnumber : ∀ count low high, scanNumber (count + 1) low high ('\n' :: cs) = none := by
    intro count low high
    rw [scanNumber]
    refine if_neg ?_
    rintro ⟨-, hall, -⟩
    exact absurd (List.all_eq_true.1 hall '\n' List.mem_cons_self) (by decide)
  rw [scanMoment, scanDay, hnumber]
  simp only [Option.bind_eq_bind, Option.bind_none, scanClock, hnumber, Option.map_none]

/-- The value that is left to be looked at where no string, word, list or table starts. -/
lemma ignoresMore_scanScalar : IgnoresMore fun cs =>
    ((scanMoment .strict cs).map fun (m, rest) => (.moment m, rest)).or (scanNumeral cs) :=
  ((ignoresMore_scanMoment _).map Value.moment).or ignoresMore_scanNumeral

/-- **A value in whole lines is taken as well when more follows.** -/
lemma follows_scanValue (depth : Nat) : Follows (scanValue depth) (scanValue depth) := by
  have hnil : ∀ depth, scanValue depth [] = none := fun depth => by cases depth <;> rfl
  have hnewline : ∀ depth cs, scanValue depth ('\n' :: cs) = none := by
    intro depth cs
    have hscalar : ((scanMoment .strict ('\n' :: cs)).map fun (m, rest) =>
        (Value.moment m, rest)).or (scanNumeral ('\n' :: cs)) = none := by
      rw [scanMoment_newline]
      rfl
    cases depth <;> exact hscalar
  have htrue : '\n' ∉ "true".toList := by decide
  have hfalse : '\n' ∉ "false".toList := by decide
  have hstep : ∀ depth, (∀ d, depth = d + 1 → Follows (scanValue d) (scanValue d)) →
      Follows (scanValue depth) (scanValue depth) := by
    intro depth ih
    refine .of_cons (hnewline _) fun c _ => ?_
    by_cases hdouble : c = '"'
    · simp only [scanValue.eq_def, if_pos hdouble]
      exact (follows_scanString.cons c).map Value.text
    by_cases hsingle : c = '\''
    · simp only [scanValue.eq_def, if_neg hdouble, if_pos hsingle]
      exact (follows_scanString.cons c).map Value.text
    by_cases ht : c = 't'
    · simp only [scanValue.eq_def, if_neg hdouble, if_neg hsingle, if_pos ht]
      exact ((ignoresMore_scanWord htrue).cons c).follows.map fun _ => Value.boolean true
    by_cases hf : c = 'f'
    · simp only [scanValue.eq_def, if_neg hdouble, if_neg hsingle, if_neg ht, if_pos hf]
      exact ((ignoresMore_scanWord hfalse).cons c).follows.map fun _ => Value.boolean false
    by_cases hlist : c = '['
    · rcases depth with _ | depth
      · simp only [scanValue.eq_def, if_neg hdouble, if_neg hsingle, if_neg ht, if_neg hf,
          if_pos hlist]
        exact follows_none
      · simp only [scanValue.eq_def (depth + 1), if_neg hdouble, if_neg hsingle, if_neg ht,
          if_neg hf, if_pos hlist]
        exact (Follows.of_fuel (follows_scanItemsFuel (ih depth rfl) (hnil depth))).map Value.list
    by_cases htable : c = '\x7b'
    · rcases depth with _ | depth
      · simp only [scanValue.eq_def, if_neg hdouble, if_neg hsingle, if_neg ht, if_neg hf,
          if_neg hlist, if_pos htable]
        exact follows_none
      · simp only [scanValue.eq_def (depth + 1), if_neg hdouble, if_neg hsingle, if_neg ht,
          if_neg hf, if_neg hlist, if_pos htable]
        refine (follows_scanMembers (ih depth rfl)).bind fun members => ?_
        dsimp only
        rcases inlineTable? members with _ | entries
        · exact follows_none
        · exact follows_some _
    · simp only [scanValue.eq_def, if_neg hdouble, if_neg hsingle, if_neg ht, if_neg hf,
        if_neg hlist, if_neg htable]
      exact (ignoresMore_scanScalar.cons c).follows
  induction depth with
  | zero => exact hstep 0 nofun
  | succ depth ih =>
    refine hstep _ fun d hd => ?_
    obtain rfl := Nat.succ.inj hd
    exact ih

/-! ## Statements -/

/-- What is taken from whole lines is taken as well when more follows; it may be all of them. -/
def Completes {α : Type} (scan : Scan α) : Prop :=
  ∀ lines a rest, WholeLines lines → scan lines = some (a, rest) →
    (rest = [] ∨ WholeLines rest) ∧ ∀ more, scan (lines ++ more) = some (a, rest ++ more)

section Completes

variable {α β : Type} {scan : Scan α}

lemma Completes.of_cons (hnewline : ∀ cs, scan ('\n' :: cs) = none)
    (hcons : ∀ c, c ≠ '\n' → Completes fun cs => scan (c :: cs)) : Completes scan := by
  intro lines a rest hlines hscan
  obtain ⟨c, lines, rfl⟩ := List.exists_cons_of_ne_nil hlines.ne_nil
  by_cases hc : c = '\n'
  · subst hc
    rw [hnewline] at hscan
    exact nomatch hscan
  · exact hcons c hc lines a rest (hlines.tail hc) hscan

lemma Follows.bindCompletes (h : Follows scan scan)
    {next : α × List Char → Option (β × List Char)}
    (hnext : ∀ a, Completes fun cs => next (a, cs)) : Completes fun cs => scan cs >>= next := by
  intro lines b rest hlines hscan
  obtain ⟨⟨a, left⟩, hfirst, hscan⟩ := Option.bind_eq_some_iff.1 hscan
  obtain ⟨hleft, hmore⟩ := h lines a left hlines hfirst
  obtain ⟨hrest, hmore'⟩ := hnext a left b rest hleft hscan
  refine ⟨hrest, fun more => ?_⟩
  simp only [hmore]
  exact hmore' more

/-- A statement ends with its line. -/
lemma completes_scanLineEnd (a : α) :
    Completes fun cs => scanLineEnd cs >>= fun (_, cs) => some (a, cs) := by
  intro lines b rest hlines hscan
  obtain ⟨hgap, hgapMore⟩ := skipGap_lines hlines
  obtain ⟨hcomment, hcommentMore⟩ := skipComment_lines hgap
  obtain ⟨hmore, hleft⟩ := scanNewline_lines hcomment
  have heq : ∀ cs, skipComment (skipGap cs) ≠ [] →
      scanLineEnd cs = scanNewline (skipComment (skipGap cs)) := by
    intro cs hne
    rw [scanLineEnd]
    split
    · next hnil => exact absurd hnil hne
    · rfl
  have hne : ∀ more, skipComment (skipGap (lines ++ more)) ≠ [] := by
    intro more
    rw [hgapMore, hcommentMore]
    exact List.append_ne_nil_of_left_ne_nil hcomment.ne_nil more
  obtain ⟨⟨_, left⟩, hend, hpair⟩ := Option.bind_eq_some_iff.1 hscan
  obtain ⟨rfl, rfl⟩ := Prod.mk.inj (Option.some.inj hpair)
  rw [heq lines hcomment.ne_nil] at hend
  refine ⟨hleft left hend, fun more => ?_⟩
  simp only [heq _ (hne more), hgapMore, hcommentMore, hmore, hend]
  rfl

end Completes

/-- **A statement in whole lines is taken as well when more follows.** -/
lemma scanStatement_entry {c : Char} (hc : ∀ cs tail, c :: cs ≠ '[' :: tail) :
    (fun cs => scanStatement (c :: cs)) = fun cs => (do
      let (key, cs) ← scanKey (c :: cs)
      let ((), cs) ← scanChar '=' cs
      let (value, cs) ← scanValue maxDepth (skipGap cs)
      let ((), cs) ← scanLineEnd cs
      return (Statement.entry key value, cs)) :=
  funext fun cs => scanStatement.eq_3 _ (fun _ => hc cs _) fun _ => hc cs _

lemma scanStatement_singleHeader {c : Char} (hc : c ≠ '[') :
    (fun cs => scanStatement ('[' :: c :: cs)) = fun cs => (do
      let (key, cs) ← scanKey (c :: cs)
      let ((), cs) ← scanChar ']' cs
      let ((), cs) ← scanLineEnd cs
      return (Statement.header key, cs)) :=
  funext fun _ => scanStatement.eq_2 _ fun _ heq => hc (List.cons.inj heq).1

lemma completes_scanStatement : Completes scanStatement := by
  have hequals : IgnoresMore (scanChar '=') := ignoresMore_scanChar (by decide)
  have hend : IgnoresMore (scanChar ']') := ignoresMore_scanChar (by decide)
  have hends : IgnoresMore (scanWord [']', ']']) := ignoresMore_scanWord (by decide)
  have hentry : ∀ c, (∀ cs tail, c :: cs ≠ '[' :: tail) → Completes fun cs =>
      scanStatement (c :: cs) := by
    intro c hc
    rw [scanStatement_entry hc]
    exact (follows_scanKey.cons c).bindCompletes fun key => hequals.follows.bindCompletes fun _ =>
      (follows_scanValue maxDepth).skipGap.bindCompletes fun value =>
        completes_scanLineEnd (Statement.entry key value)
  have hheader : ∀ c, c ≠ '[' → Completes fun cs => scanStatement ('[' :: c :: cs) := by
    intro c hc
    rw [scanStatement_singleHeader hc]
    exact (follows_scanKey.cons c).bindCompletes fun key => hend.follows.bindCompletes fun _ =>
      completes_scanLineEnd (Statement.header key)
  have hlistHeader : Completes fun cs => scanStatement ('[' :: '[' :: cs) :=
    follows_scanKey.bindCompletes fun key => hends.follows.bindCompletes fun _ =>
      completes_scanLineEnd (Statement.listHeader key)
  refine .of_cons (fun _ => rfl) fun c _ => ?_
  by_cases hc : c = '['
  · subst hc
    refine .of_cons (fun _ => rfl) fun d _ => ?_
    by_cases hd : d = '['
    · subst hd
      exact hlistHeader
    · exact hheader d hd
  · exact hentry c fun _ _ heq => hc (List.cons.inj heq).1

/-! ## Texts -/

/-- More fuel does no harm. -/
lemma readStatementsFuel_mono {n m : Nat} {cs : List Char} {statements : List Statement}
    (h : readStatementsFuel n cs = some statements) (hle : n ≤ m) :
    readStatementsFuel m cs = some statements := by
  induction n generalizing m cs statements with
  | zero => exact nomatch h
  | succ n ih =>
    obtain ⟨m, rfl⟩ : ∃ k, m = k + 1 := ⟨m - 1, by omega⟩
    rw [readStatementsFuel] at h ⊢
    split at h
    · exact h
    · exact h
    · next hnil hcomment =>
      obtain ⟨⟨statement, rest⟩, hstatement, h⟩ := Option.bind_eq_some_iff.1 h
      obtain ⟨others, hothers, h⟩ := Option.bind_eq_some_iff.1 h
      rw [hstatement]
      simp only [Option.bind_eq_bind, Option.bind_some, ih hothers (Nat.le_of_succ_le_succ hle)]
      exact h

/-- **The statements of a text that starts with whole lines** are those of these lines, and then
those of the rest. -/
lemma readStatementsFuel_append {n : Nat} {lines : List Char} {statements : List Statement}
    (hlines : lines = [] ∨ WholeLines lines) (h : readStatementsFuel n lines = some statements)
    (m : Nat) (more : List Char) :
    readStatementsFuel (statements.length + (m + 1)) (lines ++ more) =
      (readStatementsFuel (m + 1) more).map (statements ++ ·) := by
  have hid : ∀ more, (readStatementsFuel (m + 1) more).map (([] : List Statement) ++ ·) =
      readStatementsFuel (m + 1) more := fun more => Option.map_id'
  induction n generalizing lines statements with
  | zero => exact nomatch h
  | succ n ih =>
    rcases hlines with rfl | hlines
    · obtain rfl := Option.some.inj h
      rw [List.length_nil, Nat.zero_add, List.nil_append, hid]
    rw [readStatementsFuel] at h
    rcases skipLayout_lines hlines with ⟨hend, hmore⟩ | ⟨hleft, hmore⟩
    · rw [hend] at h
      obtain rfl := Option.some.inj h
      rw [List.length_nil, Nat.zero_add, hid, readStatementsFuel, readStatementsFuel, hmore]
    · obtain ⟨c, left, hleftEq⟩ := List.exists_cons_of_ne_nil hleft.ne_nil
      rw [hleftEq] at h hleft hmore
      split at h
      · next heq => exact nomatch heq
      · -- A comment within whole lines ends before they do.
        next heq =>
        obtain ⟨rfl, rfl⟩ := List.cons.inj heq
        have hrun := (dropWhile_lines (p := isShown) rfl (hleft.tail (by decide))).1
        rw [if_neg fun hempty => hrun.ne_nil (List.isEmpty_iff.1 hempty)] at h
        exact nomatch h
      · next hcomment =>
        obtain ⟨⟨statement, rest⟩, hstatement, h⟩ := Option.bind_eq_some_iff.1 h
        obtain ⟨others, hothers, h⟩ := Option.bind_eq_some_iff.1 h
        obtain rfl := Option.some.inj h
        obtain ⟨hrest, hstatementMore⟩ := completes_scanStatement _ _ _ hleft hstatement
        rw [List.length_cons, Nat.add_right_comm, readStatementsFuel, hmore, List.cons_append]
        split
        · next heq => exact nomatch heq
        · next heq => exact absurd (by rw [(List.cons.inj heq).1]) (hcomment left)
        · rw [← List.cons_append, hstatementMore]
          simp only [Option.bind_eq_bind, Option.bind_some, ih hrest hothers]
          cases readStatementsFuel (m + 1) more <;> rfl

end PaymentPlans.Toml
