/-
# Whole lines settle what stands in them

A text of whole lines ends with the end of a line.  What a scanner of a number or a moment takes
from it does not depend on what follows, for neither looks beyond the end of a line: what is
refused stays refused, and what is taken stays the same.
-/
import PaymentPlans.Proofs.Text.Front
import PaymentPlans.Toml.Reader

namespace PaymentPlans.Toml

/-! ## Whole lines -/

/-- One or more whole lines. -/
def WholeLines (cs : List Char) : Prop := cs.getLast? = some '\n'

instance (cs : List Char) : Decidable (WholeLines cs) :=
  inferInstanceAs (Decidable (cs.getLast? = some '\n'))

section WholeLines

variable {c : Char} {cs ds more : List Char} {p : Char → Bool}

lemma WholeLines.ne_nil (h : WholeLines cs) : cs ≠ [] := by
  rintro rfl
  exact nomatch h

lemma WholeLines.newline_mem (h : WholeLines cs) : '\n' ∈ cs := List.mem_of_getLast? h

lemma WholeLines.cons (h : WholeLines cs) (c : Char) : WholeLines (c :: cs) := by
  rw [WholeLines, List.getLast?_cons, show cs.getLast? = some '\n' from h]
  rfl

/-- What is left of whole lines is nothing, or whole lines. -/
lemma WholeLines.of_append (h : WholeLines (cs ++ ds)) (hds : ds ≠ []) : WholeLines ds := by
  rw [WholeLines, List.getLast?_append] at h
  rcases hlast : ds.getLast? with _ | last
  · exact absurd (List.getLast?_eq_none_iff.1 hlast) hds
  · rw [hlast, Option.some_or] at h
    exact hlast.trans h

lemma WholeLines.tail (h : WholeLines (c :: cs)) (hc : c ≠ '\n') : WholeLines cs := by
  have hlines : WholeLines ([c] ++ cs) := h
  refine hlines.of_append ?_
  rintro rfl
  exact hc (Option.some.inj h)

/-- Behind the first character stands nothing, or whole lines. -/
lemma WholeLines.eq_nil_or_tail (h : WholeLines (c :: cs)) : cs = [] ∨ WholeLines cs := by
  have hlines : WholeLines ([c] ++ cs) := h
  by_cases hcs : cs = []
  · exact .inl hcs
  · exact .inr (hlines.of_append hcs)

/-- A run of characters without ends of lines stops within whole lines. -/
lemma takeWhile_append_lines (hp : p '\n' = false) (h : WholeLines cs) (more : List Char) :
    (cs ++ more).takeWhile p = cs.takeWhile p := by
  induction cs with
  | nil => exact absurd rfl h.ne_nil
  | cons c cs ih =>
    rw [List.cons_append]
    by_cases hc : p c
    · have hne : c ≠ '\n' := by
        rintro rfl
        exact nomatch hp.symm.trans hc
      rw [List.takeWhile_cons_of_pos hc, List.takeWhile_cons_of_pos hc, ih (h.tail hne)]
    · rw [List.takeWhile_cons_of_neg hc, List.takeWhile_cons_of_neg hc]

lemma dropWhile_lines (hp : p '\n' = false) (h : WholeLines cs) :
    WholeLines (cs.dropWhile p) ∧ ∀ more, (cs ++ more).dropWhile p = cs.dropWhile p ++ more := by
  induction cs with
  | nil => exact absurd rfl h.ne_nil
  | cons c cs ih =>
    by_cases hc : p c
    · have hne : c ≠ '\n' := by
        rintro rfl
        exact nomatch hp.symm.trans hc
      obtain ⟨hlines, hmore⟩ := ih (h.tail hne)
      rw [List.dropWhile_cons_of_pos hc]
      refine ⟨hlines, fun more => ?_⟩
      rw [List.cons_append, List.dropWhile_cons_of_pos hc, hmore]
    · rw [List.dropWhile_cons_of_neg hc]
      refine ⟨h, fun more => ?_⟩
      rw [List.cons_append, List.dropWhile_cons_of_neg hc]

/-- What is left of the run at the front. -/
lemma drop_length_takeWhile (p : Char → Bool) (cs : List Char) :
    cs.drop (cs.takeWhile p).length = cs.dropWhile p :=
  List.append_cancel_left ((List.prefix_iff_eq_append.1 (List.takeWhile_prefix p)).trans
    List.takeWhile_append_dropWhile.symm)

end WholeLines

/-! ## Scanners that ignore what follows -/

/-- What a scanner takes from whole lines does not depend on what follows them, and it leaves the
end of a line. -/
def IgnoresMore {α : Type} (scan : Scan α) : Prop :=
  ∀ lines, WholeLines lines → (∀ more, scan (lines ++ more) =
    (scan lines).map fun (a, rest) => (a, rest ++ more)) ∧
      ∀ a rest, scan lines = some (a, rest) → WholeLines rest

section IgnoresMore

variable {α β : Type} {scan scan' : Scan α}

lemma ignoresMore_none : IgnoresMore fun _ => (none : Option (α × List Char)) :=
  fun _ _ => ⟨fun _ => rfl, fun _ _ h => nomatch h⟩

lemma ignoresMore_some (a : α) : IgnoresMore fun cs => some (a, cs) := fun _ h =>
  ⟨fun _ => rfl, fun _ _ hrest => (Prod.mk.inj (Option.some.inj hrest)).2 ▸ h⟩

/-- A character before whole lines makes whole lines. -/
lemma IgnoresMore.cons (h : IgnoresMore scan) (c : Char) : IgnoresMore fun cs => scan (c :: cs) :=
  fun lines hlines => h (c :: lines) (hlines.cons c)

/-- A scanner that decides on the first character does not look beyond the end of a line. -/
lemma IgnoresMore.of_cons
    (hnewline : (∀ cs, scan ('\n' :: cs) = none) ∨ ∃ a, ∀ cs, scan ('\n' :: cs) = some (a, '\n' :: cs))
    (hcons : ∀ c, c ≠ '\n' → IgnoresMore fun cs => scan (c :: cs)) : IgnoresMore scan := by
  intro lines hlines
  rcases lines with _ | ⟨c, lines⟩
  · exact absurd rfl hlines.ne_nil
  by_cases hc : c = '\n'
  · subst hc
    rcases hnewline with hnone | ⟨a, ha⟩
    · refine ⟨fun more => ?_, fun a rest h => ?_⟩
      · rw [List.cons_append, hnone, hnone, Option.map_none]
      · rw [hnone] at h
        exact nomatch h
    · refine ⟨fun more => ?_, fun b rest h => ?_⟩
      · rw [List.cons_append, ha, ha]
        rfl
      · rw [ha] at h
        exact (Prod.mk.inj (Option.some.inj h)).2 ▸ hlines
  · exact hcons c hc lines (hlines.tail hc)

/-- One scanner after the other. -/
lemma IgnoresMore.bind (h : IgnoresMore scan) {next : α × List Char → Option (β × List Char)}
    (hnext : ∀ a, IgnoresMore fun cs => next (a, cs)) : IgnoresMore fun cs => scan cs >>= next := by
  intro lines hlines
  obtain ⟨hmore, hrest⟩ := h lines hlines
  rcases hscan : scan lines with _ | ⟨a, rest⟩
  · refine ⟨fun more => ?_, fun b rest h => ?_⟩
    · simp only [hmore, hscan]
      rfl
    · simp only [hscan] at h
      exact nomatch h
  · obtain ⟨hmore', hrest'⟩ := hnext a rest (hrest a rest hscan)
    refine ⟨fun more => ?_, fun b rest' h => ?_⟩
    · simp only [hmore, hscan]
      exact hmore' more
    · simp only [hscan] at h
      exact hrest' b rest' h

lemma IgnoresMore.map (h : IgnoresMore scan) (f : α → β) :
    IgnoresMore fun cs => (scan cs).map fun (a, rest) => (f a, rest) := by
  intro lines hlines
  obtain ⟨hmore, hrest⟩ := h lines hlines
  refine ⟨fun more => ?_, fun b rest h => ?_⟩
  · simp only [hmore]
    cases scan lines <;> rfl
  · obtain ⟨⟨a, rest'⟩, hscan, hpair⟩ := Option.map_eq_some_iff.1 h
    exact (Prod.mk.inj hpair).2 ▸ hrest a rest' hscan

/-- One scanner or another, as a third one takes something or refuses. -/
lemma IgnoresMore.elim (h : IgnoresMore scan) {other : Scan β} (hother : IgnoresMore other)
    {next : α → Scan β} (hnext : ∀ a, IgnoresMore (next a)) :
    IgnoresMore fun cs => (scan cs).elim (other cs) fun (a, rest) => next a rest := by
  intro lines hlines
  obtain ⟨hmore, hrest⟩ := h lines hlines
  rcases hscan : scan lines with _ | ⟨a, rest⟩
  · simp only [hmore, hscan, Option.map_none, Option.elim_none]
    exact hother lines hlines
  · simp only [hmore, hscan, Option.map_some, Option.elim_some]
    exact hnext a rest (hrest a rest hscan)

/-- A second scanner where the first refuses. -/
lemma IgnoresMore.or (h : IgnoresMore scan) (h' : IgnoresMore scan') :
    IgnoresMore fun cs => (scan cs).or (scan' cs) := by
  intro lines hlines
  obtain ⟨hmore, hrest⟩ := h lines hlines
  rcases hscan : scan lines with _ | ⟨a, rest⟩
  · obtain ⟨hmore', hrest'⟩ := h' lines hlines
    refine ⟨fun more => ?_, fun b rest h => ?_⟩
    · simp only [hmore, hscan, Option.map_none, Option.none_or, hmore']
    · exact hrest' b rest (by simpa only [hscan, Option.none_or] using h)
  · refine ⟨fun more => ?_, fun b rest' h => ?_⟩
    · simp only [hmore, hscan, Option.map_some, Option.some_or]
    · exact hrest b rest' (by simpa only [hscan, Option.some_or] using h)

end IgnoresMore

/-! ## Numbers of moments -/

lemma ignoresMore_scanChar {c : Char} (h : c ≠ '\n') : IgnoresMore (scanChar c) := by
  refine .of_cons (.inl fun cs => if_neg (Ne.symm h)) fun d _ => ?_
  by_cases hd : d = c
  · simp only [scanChar, if_pos hd]
    exact ignoresMore_some ()
  · simp only [scanChar, if_neg hd]
    exact ignoresMore_none

lemma ignoresMore_scanNumber (count low high : Nat) : IgnoresMore (scanNumber count low high) := by
  intro lines hlines
  by_cases hcount : count < lines.length
  · have htake : ∀ more, (lines ++ more).take count = lines.take count := fun more =>
      List.take_append_of_le_length (Nat.le_of_lt hcount)
    have hdrop : ∀ more, (lines ++ more).drop count = lines.drop count ++ more := fun more =>
      List.drop_append_of_le_length (Nat.le_of_lt hcount)
    refine ⟨fun more => ?_, fun n rest h => ?_⟩
    · simp only [scanNumber, htake, hdrop]
      split <;> rfl
    · simp only [scanNumber] at h
      split at h
      · obtain ⟨-, rfl⟩ := Prod.mk.inj (Option.some.inj h)
        rw [← List.take_append_drop count lines] at hlines
        exact hlines.of_append (List.ne_nil_of_length_pos (by rw [List.length_drop]; omega))
      · exact nomatch h
  · -- The end of a line stands among the first characters, and it is no digit.
    have hnone : ∀ more, scanNumber count low high (lines ++ more) = none := by
      intro more
      rw [scanNumber]
      refine if_neg fun ⟨_, hall, _⟩ => ?_
      have hmem : '\n' ∈ (lines ++ more).take count := by
        rw [List.take_append, List.take_of_length_le (Nat.le_of_not_lt hcount)]
        exact List.mem_append_left _ hlines.newline_mem
      exact nomatch List.all_eq_true.1 hall _ hmem
    have hself := hnone []
    rw [List.append_nil] at hself
    refine ⟨fun more => ?_, fun n rest h => ?_⟩
    · rw [hnone, hself, Option.map_none]
    · rw [hself] at h
      exact nomatch h

lemma ignoresMore_scanDay : IgnoresMore scanDay :=
  (ignoresMore_scanNumber _ _ _).bind fun _ => (ignoresMore_scanChar (by decide)).bind fun _ =>
    (ignoresMore_scanNumber _ _ _).bind fun _ => (ignoresMore_scanChar (by decide)).bind fun _ =>
      (ignoresMore_scanNumber _ _ _).bind fun _ => ignoresMore_some _

lemma ignoresMore_scanFraction : IgnoresMore scanFraction := by
  refine .of_cons (.inr ⟨0, fun _ => rfl⟩) fun c _ => ?_
  by_cases hc : c = '.'
  · subst hc
    intro lines hlines
    obtain ⟨hrest, hmore⟩ := dropWhile_lines (p := Char.isDigit) rfl hlines
    have htake : ∀ more, (lines ++ more).takeWhile Char.isDigit = lines.takeWhile Char.isDigit :=
      takeWhile_append_lines rfl hlines
    have hdrop : ∀ more, (lines ++ more).drop (lines.takeWhile Char.isDigit).length =
        lines.dropWhile Char.isDigit ++ more := fun more => by
      rw [← htake more, drop_length_takeWhile, hmore]
    simp only [scanFraction, drop_length_takeWhile, htake, hdrop]
    by_cases hnone : (lines.takeWhile Char.isDigit).isEmpty
    · simp only [if_pos hnone]
      exact ⟨fun _ => rfl, fun _ _ h => nomatch h⟩
    · simp only [if_neg hnone]
      exact ⟨fun _ => rfl, fun _ _ h => (Prod.mk.inj (Option.some.inj h)).2 ▸ hrest⟩
  · have hother : ∀ cs, scanFraction (c :: cs) = some (0, c :: cs) := fun cs =>
      scanFraction.eq_2 _ fun _ heq => hc (List.cons.inj heq).1
    simp only [hother]
    exact (ignoresMore_some 0).cons c

lemma ignoresMore_scanClock (limits : Limits) : IgnoresMore (scanClock limits) :=
  (ignoresMore_scanNumber _ _ _).bind fun _ => (ignoresMore_scanChar (by decide)).bind fun _ =>
    (ignoresMore_scanNumber _ _ _).bind fun _ => (ignoresMore_scanChar (by decide)).bind fun _ =>
      (ignoresMore_scanNumber _ _ _).bind fun _ => ignoresMore_scanFraction.bind fun _ =>
        ignoresMore_some _

lemma scanZone_signed (limits : Limits) {c : Char} (hletter : ¬ (c = 'Z' ∨ c = 'z'))
    (hsign : c = '+' ∨ c = '-') (cs : List Char) : scanZone limits (c :: cs) = (do
      let (hours, cs) ← scanNumber 2 0 limits.zoneHours cs
      let ((), cs) ← scanChar ':' cs
      let (minutes, cs) ← scanNumber 2 0 limits.zoneMinutes cs
      let size := hours * 60 + minutes
      if size ≤ zoneLimit then return (some (.ahead (if c = '+' then size else -size)), cs)
      else none) := by
  rw [scanZone, if_neg hletter, if_pos hsign]

lemma ignoresMore_scanZone (limits : Limits) : IgnoresMore (scanZone limits) := by
  refine .of_cons (.inr ⟨none, fun _ => rfl⟩) fun c _ => ?_
  by_cases hletter : c = 'Z' ∨ c = 'z'
  · simp only [scanZone, if_pos hletter]
    exact ignoresMore_some _
  by_cases hsign : c = '+' ∨ c = '-'
  · rw [funext (scanZone_signed limits hletter hsign)]
    refine (ignoresMore_scanNumber _ _ _).bind fun hours =>
      (ignoresMore_scanChar (by decide)).bind fun _ =>
        (ignoresMore_scanNumber _ _ _).bind fun minutes => ?_
    by_cases hsize : hours * 60 + minutes ≤ zoneLimit
    · simp only [if_pos hsize]
      exact ignoresMore_some _
    · simp only [if_neg hsize]
      exact ignoresMore_none
  · simp only [scanZone, if_neg hletter, if_neg hsign]
    exact (ignoresMore_some none).cons c

lemma ignoresMore_scanTimeOfDay (limits : Limits) : IgnoresMore (scanTimeOfDay limits) := by
  refine .of_cons (.inl fun _ => rfl) fun c _ => ?_
  by_cases hc : isSeparator c
  · simp only [scanTimeOfDay, if_pos hc]
    exact ignoresMore_scanClock limits
  · simp only [scanTimeOfDay, if_neg hc]
    exact ignoresMore_none

/-- A moment is settled by the end of its line: also whether a time follows a day. -/
lemma scanMoment_eq (limits : Limits) : scanMoment limits = fun cs => (scanDay cs).elim
    ((scanClock limits cs).map fun (c, rest) => (.clock c, rest)) fun (d, cs) =>
      (scanTimeOfDay limits cs).elim (some (.day d, cs)) fun (c, cs) =>
        (scanZone limits cs).map fun (zone, rest) => (.both d c zone, rest) := by
  funext cs
  rw [scanMoment]
  rcases scanDay cs with _ | ⟨d, cs⟩
  · rfl
  · dsimp only [Option.elim]
    rcases scanTimeOfDay limits cs with _ | ⟨c, cs⟩ <;> rfl

lemma ignoresMore_scanMoment (limits : Limits) : IgnoresMore (scanMoment limits) := by
  rw [scanMoment_eq]
  exact ignoresMore_scanDay.elim ((ignoresMore_scanClock limits).map _) fun d =>
    (ignoresMore_scanTimeOfDay limits).elim (ignoresMore_some _) fun c =>
      (ignoresMore_scanZone limits).map _

/-! ## Words -/

section Words

variable {word : List Char}

/-- Whether whole lines start with a word of one line does not depend on what follows them. -/
lemma isPrefixOf_append_lines (h : '\n' ∉ word) {lines : List Char} (hlines : WholeLines lines)
    (more : List Char) : word.isPrefixOf (lines ++ more) = word.isPrefixOf lines := by
  induction word generalizing lines with
  | nil => rfl
  | cons c word ih =>
    obtain ⟨d, lines, rfl⟩ := List.exists_cons_of_ne_nil hlines.ne_nil
    rw [List.mem_cons, not_or] at h
    rw [List.cons_append, List.isPrefixOf_cons_cons, List.isPrefixOf_cons_cons]
    by_cases hcd : c = d
    · subst hcd
      rw [ih h.2 (hlines.tail (Ne.symm h.1))]
    · rw [beq_eq_false_iff_ne.2 hcd, Bool.false_and, Bool.false_and]

lemma ignoresMore_scanWord (h : '\n' ∉ word) : IgnoresMore (scanWord word) := by
  intro lines hlines
  simp only [scanWord, isPrefixOf_append_lines h hlines]
  by_cases hprefix : word.isPrefixOf lines
  · obtain ⟨tail, rfl⟩ := List.isPrefixOf_iff_prefix.1 hprefix
    have htail : tail ≠ [] := by
      rintro rfl
      exact h (List.append_nil word ▸ hlines.newline_mem)
    simp only [if_pos hprefix, List.append_assoc, List.drop_left]
    exact ⟨fun _ => rfl, fun _ _ heq => (Prod.mk.inj (Option.some.inj heq)).2 ▸
      hlines.of_append htail⟩
  · simp only [if_neg hprefix]
    exact ⟨fun _ => rfl, fun _ _ heq => nomatch heq⟩

end Words

/-! ## Numbers -/

lemma scanMore_lines {isDigit : Char → Bool} (h : isDigit '\n' = false) {lines : List Char}
    (hlines : WholeLines lines) : WholeLines (scanMore isDigit lines).2 ∧ ∀ more,
      scanMore isDigit (lines ++ more) =
        ((scanMore isDigit lines).1, (scanMore isDigit lines).2 ++ more) := by
  have hne : ∀ c, isDigit c → c ≠ '\n' := fun _ hc => Text.ne_of_kind hc h
  -- An underscore before whole lines has a character behind it.
  have hlone : ∀ {c cs}, WholeLines (c :: cs) → (∀ d ds, c = '_' → cs = d :: ds → False) →
      c ≠ '_' := by
    rintro _ cs hlines hunder rfl
    obtain ⟨d, ds, rfl⟩ := List.exists_cons_of_ne_nil (hlines.tail (by decide)).ne_nil
    exact hunder d ds rfl rfl
  induction lines using scanMore.induct isDigit with
  | case1 c cs hc _ _ _ ih =>
    obtain ⟨hrest, hmore⟩ := ih ((hlines.tail (by decide)).tail (hne c hc))
    rw [scanMore, if_pos hc]
    refine ⟨hrest, fun more => ?_⟩
    rw [List.cons_append, List.cons_append, scanMore, if_pos hc, hmore]
  | case2 c cs hc =>
    rw [scanMore, if_neg hc]
    refine ⟨hlines, fun more => ?_⟩
    rw [List.cons_append, List.cons_append, scanMore, if_neg hc]
  | case3 c cs hunder hc _ _ _ ih =>
    obtain ⟨hrest, hmore⟩ := ih (hlines.tail (hne c hc))
    rw [scanMore.eq_2 _ _ _ hunder, if_pos hc]
    refine ⟨hrest, fun more => ?_⟩
    rw [List.cons_append, scanMore.eq_2 _ _ _ fun _ _ hc _ => hlone hlines hunder hc, if_pos hc,
      hmore]
  | case4 c cs hunder hc =>
    rw [scanMore.eq_2 _ _ _ hunder, if_neg hc]
    refine ⟨hlines, fun more => ?_⟩
    rw [List.cons_append, scanMore.eq_2 _ _ _ fun _ _ hc _ => hlone hlines hunder hc, if_neg hc]
  | case5 => exact absurd rfl hlines.ne_nil

lemma ignoresMore_scanDigits {isDigit : Char → Bool} (h : isDigit '\n' = false) :
    IgnoresMore (scanDigits isDigit) := by
  refine .of_cons (.inl fun cs => ?_) fun c _ => ?_
  · rw [scanDigits, h]
    rfl
  by_cases hc : isDigit c
  · intro lines hlines
    obtain ⟨hrest, hmore⟩ := scanMore_lines h hlines
    simp only [scanDigits, if_pos hc, hmore]
    exact ⟨fun _ => rfl, fun _ _ heq => (Prod.mk.inj (Option.some.inj heq)).2 ▸ hrest⟩
  · simp only [scanDigits, if_neg hc]
    exact ignoresMore_none

lemma ignoresMore_scanWhole : IgnoresMore scanWhole := by
  refine .of_cons (.inl fun _ => rfl) fun c _ => ?_
  by_cases hc : c = '0'
  · subst hc
    exact ignoresMore_some _
  · have hother : ∀ cs, scanWhole (c :: cs) = scanDigits Char.isDigit (c :: cs) := fun cs =>
      scanWhole.eq_2 _ fun _ heq => hc (List.cons.inj heq).1
    simp only [hother]
    exact (ignoresMore_scanDigits rfl).cons c

/-- Whether a number is small enough does not depend on what follows it. -/
lemma ignoresMore_integer (n : Int) :
    IgnoresMore fun cs => do return (← integer? n, cs) := by
  rcases integer? n with _ | v
  · exact ignoresMore_none
  · exact ignoresMore_some v

lemma ignoresMore_scanBase (base : Nat) : IgnoresMore (scanBase base) :=
  (ignoresMore_scanDigits rfl).bind fun _ => ignoresMore_integer _

lemma ignoresMore_scanPlaces : IgnoresMore scanPlaces := by
  refine .of_cons (.inr ⟨none, fun _ => rfl⟩) fun c _ => ?_
  by_cases hc : c = '.'
  · subst hc
    exact (ignoresMore_scanDigits rfl).map _
  · have hother : ∀ cs, scanPlaces (c :: cs) = some (none, c :: cs) := fun cs =>
      scanPlaces.eq_2 _ fun _ heq => hc (List.cons.inj heq).1
    simp only [hother]
    exact (ignoresMore_some none).cons c

/-- The digits of a power, behind its sign. -/
lemma ignoresMore_powerDigits (negative : Bool) : IgnoresMore fun cs =>
    (scanDigits Char.isDigit cs).map fun (ds, rest) =>
      (some (if negative then -(Text.ofDigits ds : Int) else Text.ofDigits ds), rest) :=
  (ignoresMore_scanDigits rfl).map fun ds =>
    some (if negative then -(Text.ofDigits ds : Int) else Text.ofDigits ds)

lemma scanPower_unsigned {c sign : Char} (hc : c = 'e' ∨ c = 'E') (hplus : sign ≠ '+')
    (hminus : sign ≠ '-') (cs : List Char) : scanPower (c :: sign :: cs) =
      (scanDigits Char.isDigit (sign :: cs)).map fun (ds, rest) =>
        (some (Text.ofDigits ds : Int), rest) := by
  rw [scanPower, if_pos hc]
  · rfl
  · exact fun _ heq => hplus (List.cons.inj heq).1
  · exact fun _ heq => hminus (List.cons.inj heq).1

lemma ignoresMore_scanPower : IgnoresMore scanPower := by
  refine .of_cons (.inr ⟨none, fun _ => rfl⟩) fun c _ => ?_
  by_cases hc : c = 'e' ∨ c = 'E'
  · refine .of_cons (.inl fun _ => if_pos hc) fun sign _ => ?_
    by_cases hplus : sign = '+'
    · subst hplus
      simp only [scanPower, if_pos hc]
      exact ignoresMore_powerDigits false
    by_cases hminus : sign = '-'
    · subst hminus
      simp only [scanPower, if_pos hc]
      exact ignoresMore_powerDigits true
    · simp only [scanPower_unsigned hc hplus hminus]
      exact (ignoresMore_powerDigits false).cons sign
  · simp only [scanPower, if_neg hc]
    exact (ignoresMore_some none).cons c

lemma ignoresMore_scanDecimal (negative : Bool) : IgnoresMore (scanDecimal negative) := by
  refine ignoresMore_scanWhole.bind fun whole => ignoresMore_scanPlaces.bind fun places =>
    ignoresMore_scanPower.bind fun power => ?_
  by_cases hwhole : places.isNone && power.isNone
  · simp only [if_pos hwhole]
    exact ignoresMore_integer _
  simp only [if_neg hwhole]
  split
  · exact ignoresMore_none
  · exact ignoresMore_some _

lemma scanSpecial_eq : scanSpecial = fun cs =>
    ((scanWord ['i', 'n', 'f'] cs).map fun (_, rest) => (.float, rest)).or
      ((scanWord ['n', 'a', 'n'] cs).map fun (_, rest) => (.float, rest)) := by
  funext cs
  unfold scanSpecial
  split
  · rfl
  · rfl
  · next hinf hnan =>
    have hnone : ∀ word : List Char, (∀ tail, cs ≠ word ++ tail) → scanWord word cs = none := by
      intro word hword
      refine if_neg fun hprefix => ?_
      obtain ⟨tail, htail⟩ := List.isPrefixOf_iff_prefix.1 hprefix
      exact hword tail htail.symm
    rw [hnone _ hinf, hnone _ hnan]
    rfl

lemma ignoresMore_scanSpecial : IgnoresMore scanSpecial := by
  rw [scanSpecial_eq]
  have hinf : '\n' ∉ ['i', 'n', 'f'] := by decide
  have hnan : '\n' ∉ ['n', 'a', 'n'] := by decide
  exact ((ignoresMore_scanWord hinf).map fun _ => Value.float).or
    ((ignoresMore_scanWord hnan).map fun _ => Value.float)

/-- A number is settled by the end of its line. -/
lemma ignoresMore_scanNumeral : IgnoresMore scanNumeral := by
  have hboth : ∀ negative, IgnoresMore fun cs => (scanDecimal negative cs).or (scanSpecial cs) :=
    fun negative => (ignoresMore_scanDecimal negative).or ignoresMore_scanSpecial
  refine .of_cons (.inl fun _ => rfl) fun c _ => ?_
  by_cases hplus : c = '+'
  · subst hplus
    exact hboth false
  by_cases hminus : c = '-'
  · subst hminus
    exact hboth true
  by_cases hzero : c = '0'
  · -- A zero may start the mark of another base.
    subst hzero
    refine .of_cons (.inr ⟨.integer 0, fun _ => rfl⟩) fun d _ => ?_
    by_cases hx : d = 'x'
    · subst hx
      exact ignoresMore_scanBase 16
    by_cases ho : d = 'o'
    · subst ho
      exact ignoresMore_scanBase 8
    by_cases hb : d = 'b'
    · subst hb
      exact ignoresMore_scanBase 2
    have hother : ∀ cs, scanNumeral ('0' :: d :: cs) =
        (scanDecimal false ('0' :: d :: cs)).or (scanSpecial ('0' :: d :: cs)) := by
      intro cs
      rw [scanNumeral.eq_6 _ (by rintro _ ⟨⟩; exact hx rfl) (by rintro _ ⟨⟩; exact ho rfl)
        (by rintro _ ⟨⟩; exact hb rfl) (by rintro _ ⟨⟩) (by rintro _ ⟨⟩)]
    simp only [hother]
    exact ((hboth false).cons '0').cons d
  · have hother : ∀ cs, scanNumeral (c :: cs) =
        (scanDecimal false (c :: cs)).or (scanSpecial (c :: cs)) := by
      intro cs
      rw [scanNumeral.eq_6 _ (by rintro _ ⟨⟩; exact hzero rfl) (by rintro _ ⟨⟩; exact hzero rfl)
        (by rintro _ ⟨⟩; exact hzero rfl) (by rintro _ ⟨⟩; exact hplus rfl)
        (by rintro _ ⟨⟩; exact hminus rfl)]
    simp only [hother]
    exact (hboth false).cons c

end PaymentPlans.Toml
