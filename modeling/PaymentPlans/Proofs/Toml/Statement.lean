/-
# Statements of TOML, one after the other

How a reader of statements goes on behind one of them, and what it makes of a key without quotes
and the value behind it.
-/
import PaymentPlans.Proofs.Toml.Number
import PaymentPlans.Proofs.Toml.Text

namespace PaymentPlans.Toml

open Text (StopsAt)

/-! ## The start of a statement -/

/-- A character that may start a statement. -/
structure StartsStatement (c : Char) : Prop where
  shown : isShown c
  no_gap : isGap c = false
  no_comment : c ≠ '#'

instance (c : Char) : Decidable (StartsStatement c) :=
  decidable_of_iff (isShown c ∧ isGap c = false ∧ c ≠ '#')
    ⟨fun h => ⟨h.1, h.2.1, h.2.2⟩, fun h => ⟨h.1, h.2, h.3⟩⟩

variable {c : Char} {cs rest : List Char}

lemma skipGap_of_ne (h : isGap c = false) (cs : List Char) : skipGap (c :: cs) = c :: cs :=
  Text.dropWhile_eq_self (Text.stopsAt_cons h cs)

lemma StartsStatement.skipLayout (h : StartsStatement c) (cs : List Char) :
    skipLayout (c :: cs) = c :: cs := by
  have hcomment : skipComment (c :: cs) = c :: cs :=
    skipComment.eq_2 _ fun _ heq => h.no_comment (List.cons.inj heq).1
  rw [Toml.skipLayout, skipLayoutFuel, skipGap_of_ne h.no_gap, hcomment,
    scanNewline_of_isShown h.shown]

/-- Behind the layout a statement is taken, and the others follow. -/
lemma readStatementsFuel_of_skipLayout {text : List Char} (h : skipLayout text = c :: cs)
    (hc : StartsStatement c) (fuel : Nat) : readStatementsFuel (fuel + 1) text = do
      let (statement, rest) ← scanStatement (c :: cs)
      return statement :: (← readStatementsFuel fuel rest) := by
  rw [readStatementsFuel, h]
  split
  · next heq => exact nomatch heq
  · next heq => exact absurd (List.cons.inj heq).1 hc.no_comment
  · rfl

/-- A statement is taken from the front, and the others follow. -/
lemma readStatementsFuel_cons {statement : Statement} (hc : StartsStatement c)
    (h : scanStatement (c :: cs) = some (statement, rest)) (fuel : Nat) :
    readStatementsFuel (fuel + 1) (c :: cs) =
      (readStatementsFuel fuel rest).map (statement :: ·) := by
  rw [readStatementsFuel_of_skipLayout (hc.skipLayout cs) hc, h]
  simp only [Option.bind_eq_bind, Option.bind_some]
  cases readStatementsFuel fuel rest <;> rfl

/-! ## Keys without quotes -/

lemma StartsStatement.of_isBare (h : isBare c) : StartsStatement c := by
  have hne : ∀ d, isBare d = false → c ≠ d := fun _ => Text.ne_of_kind h
  have hshown : isShown c := by
    have hA : 'A'.val.toNat = 65 := rfl
    have hZ : 'Z'.val.toNat = 90 := rfl
    have ha : 'a'.val.toNat = 97 := rfl
    have hz : 'z'.val.toNat = 122 := rfl
    have h0 : '0'.val.toNat = 48 := rfl
    have h9 : '9'.val.toNat = 57 := rfl
    have hupper : c.isUpper = decide (c.val ≥ 'A'.val ∧ c.val ≤ 'Z'.val) := rfl
    have hlower : c.isLower = (c.val ≥ 'a'.val && c.val ≤ 'z'.val) := rfl
    have hletter : c.isAlpha = (c.isUpper || c.isLower) := rfl
    simp only [isBare, isShown, Char.isAlphanum, hletter, hupper, hlower, Char.isDigit,
      Bool.or_eq_true, Bool.and_eq_true, decide_eq_true_eq, beq_iff_eq, bne_iff_ne, Char.toNat,
      UInt32.le_iff_toNat_le] at h ⊢
    rcases h with (h | rfl) | rfl
    · omega
    · decide
    · decide
  refine ⟨hshown, ?_, hne '#' rfl⟩
  rw [isGap, Bool.or_eq_false_iff, beq_eq_false_iff_ne, beq_eq_false_iff_ne]
  exact ⟨hne ' ' rfl, hne '\t' rfl⟩

lemma StartsStatement.of_isDigit (h : c.isDigit) : StartsStatement c :=
  of_isBare (by simp [isBare, Char.isAlphanum, h])

/-- A key without quotes and dots is taken with the gap behind it. -/
lemma scanKey_bare (h : ∀ d ∈ c :: cs, isBare d) (hrest : StopsAt isBare rest)
    (hdot : (skipGap rest).head? ≠ some '.') :
    scanKey (c :: cs ++ rest) = some (⟨[], String.ofList (c :: cs)⟩, skipGap rest) := by
  rw [List.forall_mem_cons] at h
  have hne : ∀ d, isBare d = false → c ≠ d := fun _ => Text.ne_of_kind h.1
  have hgap := (StartsStatement.of_isBare h.1).no_gap
  have hpart : scanPart (c :: (cs ++ rest)) = some (String.ofList (c :: cs), rest) := by
    rw [scanPart, if_neg (hne '"' rfl), if_neg (hne '\'' rfl), if_pos h.1,
      Text.takeWhile_run h.2 hrest, Text.dropWhile_run h.2 hrest]
  have hparts : scanPartsFuel ((c :: cs ++ rest).length + 1) (c :: (cs ++ rest)) =
      some ([String.ofList (c :: cs)], skipGap rest) := by
    rw [scanPartsFuel, skipGap_of_ne hgap, hpart]
    simp only [Option.bind_eq_bind, Option.bind_some]
    split
    · next heq => exact absurd (by rw [heq]; rfl) hdot
    · rfl
  rw [scanKey, List.cons_append]
  rw [List.cons_append] at hparts
  rw [hparts]
  rfl

/-- Behind a key without quotes comes a value, and the end of the line. -/
lemma scanStatement_bare (h : ∀ d ∈ c :: cs, isBare d) :
    scanStatement (c :: cs ++ ' ' :: '=' :: ' ' :: rest) = do
      let (value, rest) ← scanValue maxDepth (skipGap rest)
      let ((), rest) ← scanLineEnd rest
      return (.entry ⟨[], String.ofList (c :: cs)⟩ value, rest) := by
  have hbracket : ∀ tail, c :: cs ++ ' ' :: '=' :: ' ' :: rest ≠ '[' :: tail := by
    intro tail heq
    obtain ⟨rfl, -⟩ := List.cons.inj heq
    exact nomatch h '[' List.mem_cons_self
  have hkey : scanKey (c :: cs ++ ' ' :: '=' :: ' ' :: rest) =
      some (⟨[], String.ofList (c :: cs)⟩, '=' :: ' ' :: rest) :=
    scanKey_bare h (Text.stopsAt_cons rfl _) (by rintro ⟨⟩)
  have hequals : scanChar '=' ('=' :: ' ' :: rest) = some ((), ' ' :: rest) := rfl
  have hgap : skipGap (' ' :: rest) = skipGap rest := rfl
  rw [scanStatement.eq_3 _ (fun _ => hbracket _) fun _ => hbracket _]
  simp only [hkey, Option.bind_eq_bind, Option.bind_some, hequals, hgap]

/-- A line with a key and a value is taken if the value is taken up to the end of the line, and the
other lines follow. -/
lemma readStatementsFuel_entry {written : List Char} {value : Value}
    (h : ∀ d ∈ c :: cs, isBare d) (hvalue : scanValue maxDepth (skipGap (written ++ '\n' :: rest)) =
      some (value, '\n' :: rest)) (fuel : Nat) :
    readStatementsFuel (fuel + 1) (c :: (cs ++ ' ' :: '=' :: ' ' :: (written ++ '\n' :: rest))) =
      (readStatementsFuel fuel rest).map (.entry ⟨[], String.ofList (c :: cs)⟩ value :: ·) := by
  have hend : scanLineEnd ('\n' :: rest) = some ((), rest) := rfl
  have hstatement : scanStatement (c :: (cs ++ ' ' :: '=' :: ' ' :: (written ++ '\n' :: rest))) =
      some (.entry ⟨[], String.ofList (c :: cs)⟩ value, rest) := by
    rw [← List.cons_append, scanStatement_bare h, hvalue]
    simp only [Option.bind_eq_bind, Option.bind_some, hend]
    rfl
  exact readStatementsFuel_cons (.of_isBare (h c List.mem_cons_self)) hstatement fuel

/-! ## Strings -/

/-- A written string starts with no gap, and it is read as a value if no quote follows it. -/
lemma scanValue_writeString (s : String) (depth : Nat) {d : Char}
    (hd : ∀ quote : Quote, d ≠ quote.char) (rest : List Char) :
    scanValue depth (skipGap (writeString s ++ d :: rest)) = some (.text s, d :: rest) := by
  have hrest : ∀ quote : Quote, (d :: rest).head? ≠ some quote.char := fun quote h =>
    hd quote (Option.some.inj h)
  obtain ⟨quote, tail, htail, hread⟩ := scanString_writeString s hrest
  rw [htail, List.cons_append] at hread ⊢
  rw [skipGap_of_ne (by cases quote <;> rfl), scanValue.eq_def]
  cases quote with
  | double => exact congrArg (Option.map _) hread
  | single => exact congrArg (Option.map _) hread

/-- A line with a key and a written string is taken, and the other lines follow. -/
lemma readStatementsFuel_text (hbare : (c :: cs).all isBare) (text : String) (fuel : Nat) :
    readStatementsFuel (fuel + 1)
        (c :: (cs ++ ' ' :: '=' :: ' ' :: (writeString text ++ '\n' :: rest))) =
      (readStatementsFuel fuel rest).map
        (.entry ⟨[], String.ofList (c :: cs)⟩ (.text text) :: ·) :=
  readStatementsFuel_entry (List.all_eq_true.1 hbare)
    (scanValue_writeString text maxDepth (by rintro ⟨⟩ <;> decide) rest) fuel

end PaymentPlans.Toml
