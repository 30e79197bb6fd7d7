/-
# Typed moments

A moment may be typed as it is, or between quotes.  In the first case it is taken as a moment, in
the second as the string of what was typed, whatever stands behind it that is no part of a moment.
-/
import PaymentPlans.Proofs.Toml.Opening
import PaymentPlans.Proofs.Toml.Spelling

namespace PaymentPlans.Toml

/-! ## Texts of moments -/

/-- The moment that a text is as it stands in a file. -/
def Moment.typed? (text : String) : Option Moment :=
  match scanMoment .strict text.toList with
  | some (m, []) => some m
  | _ => none

section Typed

variable {text : String} {m : Moment}

lemma Moment.spells_of_typed? (h : typed? text = some m) : SpellsMoment m text.toList := by
  rw [typed?] at h
  split at h
  · next hscan =>
    obtain ⟨ms, htext, hspells⟩ := exists_spellsMoment hscan
    rw [htext, List.append_nil, ← Option.some.inj h]
    exact hspells
  · exact nomatch h

/-- A moment is spelled by its text as well. -/
lemma Moment.spells_text_of_typed? (h : typed? text = some m) :
    SpellsMoment m m.text.toList := by
  rw [Moment.text, String.toList_ofList]
  exact (spells_of_typed? h).chars

end Typed

/-! ## Values -/

/-- A text stands for a value in front of another one. -/
def Types (text : List Char) (value : Value) (below : List Char) : Prop :=
  ∀ depth, scanValue depth (skipGap (text ++ below)) = some (value, below)

/-- A text between quotes. -/
def inQuotes (text : String) : String := "\"" ++ text ++ "\""

section Values

variable {m : Moment} {ms below rest : List Char} {text : String}

/-- A moment is taken as a value from each of its spellings. -/
lemma SpellsMoment.types (h : SpellsMoment m ms) (hbelow : EndsMoment below) :
    Types ms (.moment m) below := by
  intro depth
  obtain ⟨c, tail, rfl, hc⟩ := h.eq_cons
  have hmoment : Toml.scanMoment .strict (c :: (tail ++ below)) = some (m, below) :=
    h.scanMoment hbelow
  rw [List.cons_append, skipGap_of_ne (StartsStatement.of_isDigit hc).no_gap,
    scanValue_of_isDigit hc, hmoment]
  rfl

lemma isShown_of_isMomentChar {c : Char} (h : isMomentChar c) : isShown c := by
  rw [isMomentChar, Bool.or_eq_true] at h
  rcases h with h | h
  · exact (StartsStatement.of_isDigit h).shown
  · have hall : ['-', ':', '.', '+', 'T', 't', ' ', 'Z', 'z'].all isShown := rfl
    exact List.all_eq_true.1 hall c (List.contains_iff_mem.1 h)

/-- The characters of a moment stand for themselves between quotes. -/
lemma pieces_of_isMomentChar {cs : List Char} (h : ∀ c ∈ cs, isMomentChar c) :
    Pieces .double cs cs := by
  induction cs with
  | nil => exact .nil
  | cons c cs ih =>
    rw [List.forall_mem_cons] at h
    have hne : ∀ d, isMomentChar d = false → c ≠ d := fun _ => Text.ne_of_kind h.1
    have hpiece : Piece .double c [c] :=
      .itself (isShown_of_isMomentChar h.1) (hne '"' rfl) fun hc => hne '\\' rfl hc.1
    exact .cons hpiece (ih h.2)

/-- A moment between quotes is taken as a string. -/
lemma SpellsMoment.types_quoted (h : SpellsMoment m text.toList) (below : List Char) :
    Types (inQuotes text).toList (.text text) below := by
  intro depth
  have hne : text.toList ≠ [] := by
    obtain ⟨c, tail, heq, -⟩ := h.eq_cons
    rw [heq]
    exact List.cons_ne_nil _ _
  have hstring : scanString .double ('"' :: (text.toList ++ '"' :: below)) = some (text, below) := by
    have hfree : text.toList = [] → below.head? ≠ some Quote.double.char := fun hnil =>
      absurd hnil hne
    have hscan := (pieces_of_isMomentChar h.isMomentChar).scanString hfree
    rwa [String.ofList_toList] at hscan
  have hchars : (inQuotes text).toList ++ below = '"' :: (text.toList ++ '"' :: below) := by
    rw [inQuotes, String.toList_append, String.toList_append, List.append_assoc, List.append_assoc]
    rfl
  rw [hchars, skipGap_of_ne rfl, scanValue.eq_def]
  simp only [if_pos, hstring]
  rfl

/-! ## What stands behind a value -/

/-- No moment goes on at the end of a line. -/
lemma endsMoment_of_scanLineEnd {cs : List Char} (h : scanLineEnd cs = some ((), rest)) :
    EndsMoment cs := by
  rw [EndsMoment]
  rw [scanLineEnd] at h
  rcases hskip : skipGap cs with _ | ⟨c, tail⟩
  · exact Text.stopsAt_nil
  rw [hskip] at h
  refine Text.stopsAt_cons ?_ tail
  by_cases hcomment : c = '#'
  · rw [hcomment]
    rfl
  have hself : skipComment (c :: tail) = c :: tail :=
    skipComment.eq_2 _ fun _ heq => hcomment (List.cons.inj heq).1
  rw [hself] at h
  dsimp only at h
  unfold scanNewline at h
  split at h
  · next heq => rw [(List.cons.inj heq).1]; rfl
  · next heq => rw [(List.cons.inj heq).1]; rfl
  · cases h

/-- No moment goes on at the end of a member of a table. -/
lemma endsMoment_of_scanBehindNamed {scanItem : Scan Value} {cs : List Char}
    {others : List (Key × Value)} (h : scanBehindNamed scanItem cs = some (others, rest)) :
    EndsMoment cs := by
  rw [EndsMoment]
  rw [scanBehindNamed] at h
  split at h
  · next heq =>
    rw [heq]
    exact Text.stopsAt_cons rfl _
  · next heq =>
    rw [heq]
    exact Text.stopsAt_cons rfl _
  · cases h

end Values

end PaymentPlans.Toml
