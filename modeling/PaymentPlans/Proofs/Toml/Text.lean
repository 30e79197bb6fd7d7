/-
# Strings of TOML that were written are read back

A string is written in one of several styles, and each is read back.  Between quotes there are
pieces, each of which is read as one character; with three quotes on either side there may also be
ends of lines, and one or two quotes in a row.
-/
import PaymentPlans.Proofs.Text.Front
import PaymentPlans.Toml.Text.Printer

namespace PaymentPlans.Toml

/-! ## Pieces -/

/-- Characters that are read as one character of a string: one that stands for itself, or an
escape. -/
inductive Piece (quote : Quote) (c : Char) : List Char → Prop where
  | itself (shown : isShown c) (ne_quote : c ≠ quote.char)
      (plain : ¬ (c = '\\' ∧ quote = .double)) : Piece quote c [c]
  | escape (double : quote = .double) (cs : List Char)
      (read : ∀ rest, scanEscape (cs ++ rest) = some (c, rest))
      (stays : ∀ rest, scanNewline (skipGap (cs ++ rest)) = none) : Piece quote c ('\\' :: cs)

/-- The character behind the backslash of a short escape is no gap and no end of a line. -/
lemma stays_of_shortEscape? {e c : Char} (h : shortEscape? e = some c) (rest : List Char) :
    scanNewline (skipGap ([e] ++ rest)) = none := by
  unfold shortEscape? at h
  split at h <;> first | rfl | cases h

lemma piece_short {e c : Char} (h : shortEscape? e = some c) : Piece .double c ['\\', e] := by
  have hnumbered : e ≠ 'u' ∧ e ≠ 'U' := by constructor <;> rintro rfl <;> exact nomatch h
  refine .escape rfl [e] (fun rest => ?_) (stays_of_shortEscape? h)
  rw [List.singleton_append, scanEscape.eq_4 e rest hnumbered.1 hnumbered.2, h]
  rfl

/-- A control is read off its four digits. -/
lemma scanNumbered_fourDigits {c : Char} (h : c.toNat < 0x80) (rest : List Char) :
    scanNumbered 4 (fourDigits c.toNat ++ rest) = some (c, rest) := by
  have hdigits : ∀ n < 0x80, (fourDigits n).mapM hexDigit? =
      some [n / 4096 % 16, n / 256 % 16, n / 16 % 16, n % 16] := by decide
  have hvalue : ∀ n < 0x80,
      [n / 4096 % 16, n / 256 % 16, n / 16 % 16, n % 16].foldl (fun n d => n * 16 + d) 0 = n := by
    decide
  have htake : (fourDigits c.toNat ++ rest).take 4 = fourDigits c.toNat := rfl
  have hchar : charOfNumber? c.toNat = some c := by
    have hvalid : c.toNat.isValidChar := c.valid
    rw [charOfNumber?, if_pos hvalid, Char.ofNat_toNat]
  simp only [scanNumbered, htake, hdigits _ h, Option.bind_eq_bind, Option.bind_some, hvalue _ h,
    hchar]
  rfl

/-- What is not shown, and no end of a line, is a control with a small number. -/
lemma toNat_lt_of_not_isShown {c : Char} (h : isShown c = false) : c.toNat < 0x80 := by
  simp only [isShown, Bool.or_eq_false_iff, Bool.and_eq_false_iff, bne_eq_false_iff_eq,
    decide_eq_false_iff_not] at h
  omega

/-- A character between double quotes is a piece, unless it is a quote or stays as an end of a
line. -/
lemma piece_escapeChar {isLong : Bool} {c : Char} (hquote : c ≠ '"')
    (hline : c = '\n' → isLong = false) : Piece .double c (escapeChar isLong c) := by
  unfold escapeChar
  split
  · next h => exact piece_short (by rw [h]; rfl)
  split
  · next h => exact piece_short (by rw [h]; rfl)
  split
  · next h => exact piece_short (by rw [h]; rfl)
  split
  · next h =>
    rw [hline h, if_neg Bool.false_ne_true]
    exact piece_short (by rw [h]; rfl)
  split
  · next h => exact piece_short (by rw [h]; rfl)
  split
  · next h => exact piece_short (by rw [h]; rfl)
  split
  · next hbackslash _ _ _ _ _ hshown => exact .itself hshown hquote fun h => hbackslash h.1
  · next hshown =>
    refine .escape rfl ('u' :: fourDigits c.toNat) (fun rest => ?_) fun rest => rfl
    exact scanNumbered_fourDigits (toNat_lt_of_not_isShown (Bool.eq_false_iff.2 hshown)) rest

variable {quote : Quote}

lemma Piece.head_ne {c : Char} {w : List Char} (h : Piece quote c w) :
    ∃ d ds, w = d :: ds ∧ d ≠ quote.char ∧ isShown d := by
  cases h with
  | itself shown ne_quote plain => exact ⟨c, [], rfl, ne_quote, shown⟩
  | escape double cs read stays => exact ⟨'\\', cs, rfl, by cases quote <;> decide, rfl⟩

/-! ## Strings on one line -/

/-- A piece is taken as its character. -/
lemma Piece.scanShortFuel {c : Char} {w : List Char} (h : Piece quote c w) (fuel : Nat)
    (rest : List Char) : scanShortFuel quote (fuel + 1) (w ++ rest) =
      (scanShortFuel quote fuel rest).map fun (ds, cs) => (c :: ds, cs) := by
  cases h with
  | itself shown ne_quote plain =>
    rw [List.cons_append, Toml.scanShortFuel, if_neg ne_quote, if_neg plain, if_pos shown]
    rfl
  | escape double cs read stays =>
    subst double
    have hquote : '\\' ≠ Quote.double.char := by decide
    rw [List.cons_append, Toml.scanShortFuel, if_neg hquote, if_pos ⟨rfl, rfl⟩, read]
    simp only [Option.bind_eq_bind, Option.bind_some]
    cases Toml.scanShortFuel .double fuel rest <;> rfl

/-- A text, and pieces that are read as its characters. -/
inductive Pieces (quote : Quote) : List Char → List Char → Prop where
  | nil : Pieces quote [] []
  | cons {c : Char} {w cs body : List Char} (first : Piece quote c w)
      (others : Pieces quote cs body) : Pieces quote (c :: cs) (w ++ body)

variable {cs body : List Char}

lemma Pieces.length_le (h : Pieces quote cs body) : cs.length ≤ body.length := by
  induction h with
  | nil => exact Nat.le_refl 0
  | cons first others ih =>
    obtain ⟨d, ds, rfl, -, -⟩ := first.head_ne
    simp only [List.length_cons, List.length_append] at ih ⊢
    omega

/-- Pieces are read up to the quote behind them. -/
lemma Pieces.scanShortFuel (h : Pieces quote cs body) {fuel : Nat} (hfuel : cs.length < fuel)
    (rest : List Char) :
    scanShortFuel quote fuel (body ++ quote.char :: rest) = some (cs, rest) := by
  induction h generalizing fuel with
  | nil =>
    obtain ⟨fuel, rfl⟩ := Nat.exists_eq_add_one_of_ne_zero (Nat.ne_of_gt (Nat.zero_lt_of_lt hfuel))
    rw [List.nil_append, Toml.scanShortFuel, if_pos rfl]
  | cons first others ih =>
    obtain ⟨fuel, rfl⟩ := Nat.exists_eq_add_one_of_ne_zero (Nat.ne_of_gt (Nat.zero_lt_of_lt hfuel))
    rw [List.append_assoc, first.scanShortFuel, ih (Nat.lt_of_succ_lt_succ hfuel)]
    rfl

lemma Pieces.scanShort (h : Pieces quote cs body) (rest : List Char) :
    scanShort quote (body ++ quote.char :: rest) = some (cs, rest) := by
  refine h.scanShortFuel ?_ rest
  have hlength := h.length_le
  rw [List.length_append]
  omega

/-- Between two quotes pieces are read as a string, unless nothing stands there and a third quote
follows. -/
lemma Pieces.scanString (h : Pieces quote cs body) {rest : List Char}
    (hrest : cs = [] → rest.head? ≠ some quote.char) :
    scanString quote (quote.char :: (body ++ quote.char :: rest)) =
      some (String.ofList cs, rest) := by
  have hopening : [quote.char, quote.char, quote.char].isPrefixOf
      (quote.char :: (body ++ quote.char :: rest)) = false := by
    cases h with
    | nil =>
      rw [← Bool.not_eq_true, List.isPrefixOf_iff_prefix]
      rintro ⟨tail, htail⟩
      refine hrest rfl ?_
      simp only [List.cons_append, List.nil_append, List.cons.injEq, true_and] at htail
      rw [← htail]
      rfl
    | cons first others =>
      obtain ⟨d, ds, rfl, hne, -⟩ := first.head_ne
      rw [← Bool.not_eq_true, List.isPrefixOf_iff_prefix]
      rintro ⟨tail, htail⟩
      simp only [List.cons_append, List.cons.injEq, true_and] at htail
      exact hne htail.1.symm
  have hchar : ∀ cs, scanChar quote.char (quote.char :: cs) = some ((), cs) := fun _ => if_pos rfl
  simp only [Toml.scanString, hopening, if_neg Bool.false_ne_true, hchar, Option.bind_eq_bind,
    Option.bind_some, h.scanShort]
  rfl

/-! ## Strings over many lines -/

/-- A text, and what may stand for it between three quotes: pieces, ends of lines, and one or two
quotes in a row. -/
inductive LongBody (quote : Quote) : List Char → List Char → Prop where
  | nil : LongBody quote [] []
  | piece {c : Char} {w cs body : List Char} (first : Piece quote c w)
      (others : LongBody quote cs body) : LongBody quote (c :: cs) (w ++ body)
  | newline {cs body : List Char} (others : LongBody quote cs body) :
      LongBody quote ('\n' :: cs) ('\n' :: body)
  | one {cs body : List Char} (others : LongBody quote cs body)
      (other : body.head? ≠ some quote.char) : LongBody quote (quote.char :: cs) (quote.char :: body)
  | two {cs body : List Char} (others : LongBody quote cs body)
      (other : body.head? ≠ some quote.char) :
      LongBody quote (quote.char :: quote.char :: cs) (quote.char :: quote.char :: body)

lemma LongBody.length_le (h : LongBody quote cs body) : cs.length ≤ body.length := by
  induction h with
  | nil => exact Nat.le_refl 0
  | piece first others ih =>
    obtain ⟨d, ds, rfl, -, -⟩ := first.head_ne
    simp only [List.length_cons, List.length_append] at ih ⊢
    omega
  | newline others ih => exact Nat.succ_le_succ ih
  | one others other ih => exact Nat.succ_le_succ ih
  | two others other ih => exact Nat.succ_le_succ (Nat.succ_le_succ ih)

/-- Quotes with something else behind them are taken together. -/
lemma scanLongFuel_quotes (more : List Char) {rest : List Char}
    (hmore : ∀ c ∈ more, c = quote.char) (hrest : rest.head? ≠ some quote.char) (fuel : Nat) :
    scanLongFuel quote (fuel + 1) (quote.char :: (more ++ rest)) =
      if 5 ≤ more.length then none
      else if 2 ≤ more.length then some (more.drop 2, rest)
      else (scanLongFuel quote fuel rest).map fun (ds, cs) => (quote.char :: (more ++ ds), cs) := by
  have htaken : (more ++ rest).takeWhile (· == quote.char) = more := by
    refine Text.takeWhile_run (fun c hc => beq_iff_eq.2 (hmore c hc)) fun c hc => ?_
    rw [beq_eq_false_iff_ne]
    rintro rfl
    exact hrest hc
  rw [scanLongFuel, if_pos rfl]
  simp only [htaken, List.drop_left]

/-- A piece is taken as its character. -/
lemma Piece.scanLongFuel {c : Char} {w : List Char} (h : Piece quote c w) (fuel : Nat)
    (rest : List Char) : scanLongFuel quote (fuel + 1) (w ++ rest) =
      (scanLongFuel quote fuel rest).map fun (ds, cs) => (c :: ds, cs) := by
  cases h with
  | itself shown ne_quote plain =>
    rw [List.cons_append, Toml.scanLongFuel, if_neg ne_quote, if_neg plain, if_pos shown]
    rfl
  | escape double cs read stays =>
    subst double
    have hquote : '\\' ≠ Quote.double.char := by decide
    rw [List.cons_append, Toml.scanLongFuel, if_neg hquote, if_pos ⟨rfl, rfl⟩, stays, read]
    simp only [Option.bind_eq_bind, Option.bind_some]
    cases Toml.scanLongFuel .double fuel rest <;> rfl

lemma scanLongFuel_newline (fuel : Nat) (rest : List Char) :
    scanLongFuel quote (fuel + 1) ('\n' :: rest) =
      (scanLongFuel quote fuel rest).map fun (ds, cs) => ('\n' :: ds, cs) := by
  have hquote : '\n' ≠ quote.char := by cases quote <;> decide
  have hbackslash : ¬ ('\n' = '\\' ∧ quote = .double) := nofun
  have hline : scanNewline ('\n' :: rest) = some ((), rest) := rfl
  rw [scanLongFuel, if_neg hquote, if_neg hbackslash, if_neg (by decide), hline]
  simp only [Option.bind_eq_bind, Option.bind_some]
  cases scanLongFuel quote fuel rest <;> rfl

/-- The text is read up to the three quotes behind it. -/
lemma LongBody.scanLongFuel (h : LongBody quote cs body) {fuel : Nat} (hfuel : cs.length < fuel)
    {rest : List Char} (hrest : rest.head? ≠ some quote.char) :
    scanLongFuel quote fuel (body ++ quote.char :: quote.char :: quote.char :: rest) =
      some (cs, rest) := by
  have hempty : ∀ {cs}, LongBody quote cs [] → cs = [] := fun h =>
    List.eq_nil_of_length_eq_zero (Nat.le_zero.1 h.length_le)
  induction h generalizing fuel with
  | nil =>
    obtain ⟨fuel, rfl⟩ := Nat.exists_eq_add_one_of_ne_zero (Nat.ne_of_gt (Nat.zero_lt_of_lt hfuel))
    exact scanLongFuel_quotes [quote.char, quote.char] (by simp) hrest fuel
  | piece first others ih =>
    obtain ⟨fuel, rfl⟩ := Nat.exists_eq_add_one_of_ne_zero (Nat.ne_of_gt (Nat.zero_lt_of_lt hfuel))
    rw [List.append_assoc, first.scanLongFuel, ih (Nat.lt_of_succ_lt_succ hfuel)]
    rfl
  | newline others ih =>
    obtain ⟨fuel, rfl⟩ := Nat.exists_eq_add_one_of_ne_zero (Nat.ne_of_gt (Nat.zero_lt_of_lt hfuel))
    rw [List.cons_append, scanLongFuel_newline, ih (Nat.lt_of_succ_lt_succ hfuel)]
    rfl
  | @one cs body others other ih =>
    obtain ⟨fuel, rfl⟩ := Nat.exists_eq_add_one_of_ne_zero (Nat.ne_of_gt (Nat.zero_lt_of_lt hfuel))
    rcases body with _ | ⟨b, body⟩
    · rw [hempty others]
      exact scanLongFuel_quotes [quote.char, quote.char, quote.char] (by simp) hrest fuel
    · have hbody : (b :: body ++ quote.char :: quote.char :: quote.char :: rest).head? ≠
          some quote.char := other
      have hread := scanLongFuel_quotes [] nofun hbody fuel
      rwa [ih (Nat.lt_of_succ_lt_succ hfuel)] at hread
  | @two cs body others other ih =>
    obtain ⟨fuel, rfl⟩ := Nat.exists_eq_add_one_of_ne_zero (Nat.ne_of_gt (Nat.zero_lt_of_lt hfuel))
    rcases body with _ | ⟨b, body⟩
    · rw [hempty others]
      exact scanLongFuel_quotes [quote.char, quote.char, quote.char, quote.char] (by simp) hrest fuel
    · have hbody : (b :: body ++ quote.char :: quote.char :: quote.char :: rest).head? ≠
          some quote.char := other
      have hread := scanLongFuel_quotes [quote.char] (by simp) hbody fuel
      rwa [ih (Nat.lt_of_succ_lt (Nat.lt_of_succ_lt_succ hfuel))] at hread

lemma scanNewline_of_isShown {c : Char} (h : isShown c) (rest : List Char) :
    scanNewline (c :: rest) = none := by
  rw [scanNewline.eq_3]
  · intro cs heq
    obtain ⟨rfl, -⟩ := List.cons.inj heq
    exact nomatch h
  · intro cs heq
    obtain ⟨rfl, -⟩ := List.cons.inj heq
    exact nomatch h

/-- A text of one line does not start with the end of one. -/
lemma LongBody.head_isShown (h : LongBody quote cs body) (hline : '\n' ∉ cs) :
    ∀ c ∈ body.head?, isShown c := by
  have hquote : isShown quote.char := by cases quote <;> rfl
  cases h with
  | nil => exact nofun
  | piece first others =>
    obtain ⟨d, ds, rfl, -, hshown⟩ := first.head_ne
    rintro _ ⟨⟩
    exact hshown
  | newline others => exact absurd List.mem_cons_self hline
  | one others other =>
    rintro _ ⟨⟩
    exact hquote
  | two others other =>
    rintro _ ⟨⟩
    exact hquote

/-- Three quotes on either side, and a text of many lines starting on a line of its own. -/
def longChars (quote : Quote) (cs body : List Char) : List Char :=
  quote.char :: quote.char :: quote.char :: ((if cs.contains '\n' then ['\n'] else []) ++
    (body ++ [quote.char, quote.char, quote.char]))

lemma LongBody.scanString (h : LongBody quote cs body) {rest : List Char}
    (hrest : rest.head? ≠ some quote.char) :
    scanString quote (longChars quote cs body ++ rest) = some (String.ofList cs, rest) := by
  let whole := body ++ quote.char :: quote.char :: quote.char :: rest
  have hchars : longChars quote cs body ++ rest = quote.char :: quote.char :: quote.char ::
      ((if cs.contains '\n' then ['\n'] else []) ++ whole) := by
    simp only [longChars, List.cons_append, List.append_assoc, List.nil_append, whole]
  have hopening : [quote.char, quote.char, quote.char].isPrefixOf
      (longChars quote cs body ++ rest) = true := by
    rw [hchars, List.isPrefixOf_iff_prefix]
    exact ⟨_, rfl⟩
  have hstart : (scanNewline ((if cs.contains '\n' then ['\n'] else []) ++ whole)).elim
      ((if cs.contains '\n' then ['\n'] else []) ++ whole) Prod.snd = whole := by
    split
    · rfl
    · next hline =>
      rw [List.contains_iff_mem] at hline
      have hshown := h.head_isShown hline
      have hquote : isShown quote.char := by cases quote <;> rfl
      have hnone : scanNewline whole = none := by
        rcases hbody : body with _ | ⟨b, body'⟩
        · simp only [whole, hbody]
          exact scanNewline_of_isShown hquote _
        · simp only [whole, hbody]
          exact scanNewline_of_isShown (hshown b (by rw [hbody]; rfl)) _
      rw [List.nil_append, hnone]
      rfl
  have hfuel : cs.length < whole.length + 1 := by
    have hlength := h.length_le
    simp only [whole, List.length_append]
    omega
  have hread : Toml.scanLongFuel quote (whole.length + 1) whole = some (cs, rest) :=
    h.scanLongFuel hfuel hrest
  simp only [Toml.scanString, hopening, if_true]
  rw [hchars, List.drop_succ_cons, List.drop_succ_cons, List.drop_succ_cons, List.drop_zero]
  simp only [scanLong, hstart, hread]
  rfl

/-! ## The styles -/

/-- How many quotes stand before does not matter to other characters. -/
lemma escapeChars_of_head_ne (isLong : Bool) (allowed seen : Nat) (h : cs.head? ≠ some '"') :
    escapeChars isLong allowed seen cs = escapeChars isLong allowed 0 cs := by
  cases cs with
  | nil => rfl
  | cons c cs =>
    have hc : c ≠ '"' := fun hc => h (hc ▸ rfl)
    rw [escapeChars, escapeChars, if_neg hc, if_neg hc]

/-- With one quote on either side, every text has pieces between double quotes. -/
lemma pieces_escapeChars (cs : List Char) : Pieces .double cs (escapeChars false 0 0 cs) := by
  induction cs with
  | nil => exact .nil
  | cons c cs ih =>
    rw [escapeChars]
    split
    · next hc => exact hc ▸ .cons (piece_short rfl) ih
    · next hc => exact .cons (piece_escapeChar hc fun _ => rfl) ih

/-- Between double quotes a text that starts with no quote is written with none at its start. -/
lemma head?_escapeChars (isLong : Bool) (allowed seen : Nat) (h : cs.head? ≠ some '"') :
    (escapeChars isLong allowed seen cs).head? ≠ some '"' := by
  cases cs with
  | nil => exact nofun
  | cons c cs =>
    have hc : c ≠ '"' := fun hc => h (hc ▸ rfl)
    rw [escapeChars, if_neg hc]
    by_cases hline : c = '\n' ∧ isLong
    · obtain ⟨rfl, rfl⟩ := hline
      exact fun hhead => nomatch hhead
    · have hpiece : Piece .double c (escapeChar isLong c) :=
        piece_escapeChar hc fun hnewline => Bool.eq_false_iff.2 fun hlong => hline ⟨hnewline, hlong⟩
      obtain ⟨d, ds, hchars, hne, -⟩ := hpiece.head_ne
      rw [hchars, List.cons_append, List.head?_cons]
      exact fun hhead => hne (Option.some.inj hhead)

/-- With three quotes on either side, every text may stand between double quotes: of the quotes in
it two stand in a row, and the next one is escaped. -/
lemma longBody_escapeChars (cs : List Char) : LongBody .double cs (escapeChars true 2 0 cs) := by
  induction hlength : cs.length using Nat.strong_induction_on generalizing cs with
  | _ n ih =>
    rcases cs with _ | ⟨c, cs⟩
    · exact .nil
    rw [List.length_cons] at hlength
    by_cases hc : c = '"'
    · subst hc
      rw [escapeChars, if_pos rfl, if_pos (by decide)]
      by_cases hnext : cs.head? = some '"'
      · obtain ⟨cs, rfl⟩ := List.head?_eq_some_iff.1 hnext
        rw [List.length_cons] at hlength
        rw [escapeChars, if_pos rfl, if_pos (by decide)]
        by_cases hthird : cs.head? = some '"'
        · obtain ⟨cs, rfl⟩ := List.head?_eq_some_iff.1 hthird
          rw [List.length_cons] at hlength
          rw [escapeChars, if_pos rfl, if_neg (by decide)]
          exact .two (.piece (piece_short rfl) (ih _ (by omega) cs rfl)) nofun
        · refine .two ?_ (head?_escapeChars _ _ _ hthird)
          rw [escapeChars_of_head_ne _ _ _ hthird]
          exact ih _ (by omega) cs rfl
      · refine .one ?_ (head?_escapeChars _ _ _ hnext)
        rw [escapeChars_of_head_ne _ _ _ hnext]
        exact ih _ (by omega) cs rfl
    · rw [escapeChars, if_neg hc]
      have hothers := ih _ (by omega) cs rfl
      by_cases hline : c = '\n'
      · exact hline ▸ .newline hothers
      · exact .piece (piece_escapeChar hc fun h => absurd h hline) hothers

/-- The longest run in a text is no shorter than the one at its front. -/
lemma length_takeWhile_le_longestRun (c : Char) (cs : List Char) :
    (cs.takeWhile (· == c)).length ≤ longestRun c cs := by
  cases cs with
  | nil => exact Nat.le_refl 0
  | cons d ds => exact Nat.le_max_left _ _

/-- With one quote on either side, a text without quotes and controls is its own pieces between
single quotes. -/
lemma pieces_self (hshown : ∀ c ∈ cs, isShown c) (hrun : longestRun '\'' cs = 0) :
    Pieces .single cs cs := by
  induction cs with
  | nil => exact .nil
  | cons c cs ih =>
    rw [longestRun, Nat.max_eq_zero_iff] at hrun
    have hc : c ≠ '\'' := by
      rintro rfl
      exact nomatch hrun.1
    have hpiece : Piece .single c [c] := .itself (hshown c List.mem_cons_self) hc nofun
    exact .cons hpiece (ih (fun d hd => hshown d (List.mem_cons_of_mem c hd)) hrun.2)

/-- With three quotes on either side, a text without longer runs of quotes and without controls
stands for itself between single quotes. -/
lemma longBody_self (hshown : ∀ c ∈ cs, isShown c ∨ c = '\n') (hrun : longestRun '\'' cs ≤ 2) :
    LongBody .single cs cs := by
  induction hlength : cs.length using Nat.strong_induction_on generalizing cs with
  | _ n ih =>
    rcases cs with _ | ⟨c, cs⟩
    · exact .nil
    have hfront := Nat.le_trans (length_takeWhile_le_longestRun '\'' (c :: cs)) hrun
    rw [List.length_cons] at hlength
    rw [longestRun, Nat.max_le] at hrun
    rw [List.forall_mem_cons] at hshown
    by_cases hc : c = '\''
    · subst hc
      by_cases hnext : cs.head? = some '\''
      · obtain ⟨cs, rfl⟩ := List.head?_eq_some_iff.1 hnext
        rw [List.length_cons] at hlength
        have hthird : cs.head? ≠ some '\'' := by
          intro hthird
          obtain ⟨cs, rfl⟩ := List.head?_eq_some_iff.1 hthird
          simp only [List.takeWhile_cons, beq_self_eq_true, if_true, List.length_cons] at hfront
          omega
        have hrest := hrun.2
        rw [longestRun, Nat.max_le] at hrest
        rw [List.forall_mem_cons] at hshown
        exact .two (ih _ (by omega) hshown.2.2 hrest.2 rfl) hthird
      · exact .one (ih _ (by omega) hshown.2 hrun.2 rfl) hnext
    · have hothers := ih _ (by omega) hshown.2 hrun.2 rfl
      rcases hshown.1 with hshown | rfl
      · have hpiece : Piece .single c [c] := .itself hshown hc nofun
        exact .piece hpiece hothers
      · exact .newline hothers

/-! ## Written strings -/

/-- What is written between single quotes may stand there as it is. -/
lemma Style.holds_of_single (h : (Style.of cs).quote = .single) : (Style.of cs).holds cs := by
  unfold Style.of at h ⊢
  rcases hfind : [(⟨.double, false⟩ : Style), ⟨.single, false⟩, ⟨.double, true⟩,
      ⟨.single, true⟩].find? fun style => style.holds cs with _ | style
  · simp only [hfind] at h
    exact nomatch h
  · simp only [hfind]
    have hholds := List.find?_some hfind
    exact hholds

/-- What a style between single quotes asks of a text that it holds. -/
lemma Style.holds_single {isLong : Bool} (h : (Style.mk .single isLong).holds cs) :
    (∀ c ∈ cs, isShown c ∨ c = '\n') ∧ (isLong = false → '\n' ∉ cs) ∧
      longestRun '\'' cs ≤ if isLong then 2 else 0 := by
  simp only [holds, Bool.and_eq_true, Bool.not_eq_true', decide_eq_true_eq, Bool.or_eq_false_iff,
    List.any_eq_false, needsEscape] at h
  obtain ⟨⟨⟨hcontrols, -⟩, hlines⟩, hrun⟩ := h
  refine ⟨fun c hc => ?_, ?_, hrun⟩
  · have hescape := hcontrols c hc
    rw [bne_iff_ne, not_and_or, Bool.not_eq_false, not_not] at hescape
    exact hescape
  · rintro rfl
    simpa using hlines

/-- A string in a style that fits it is read back up to what follows it. -/
lemma Style.scanString_write {style : Style} {cs rest : List Char}
    (hfits : style.quote = .single → style.holds cs)
    (hrest : rest.head? ≠ some style.quote.char) :
    scanString style.quote (style.write cs ++ rest) = some (String.ofList cs, rest) := by
  obtain ⟨quote, isLong⟩ := style
  cases isLong with
  | false =>
    have hpieces : ∃ body, Pieces quote cs body ∧
        (Style.mk quote false).write cs = quote.char :: (body ++ [quote.char]) := by
      cases quote with
      | double => exact ⟨_, pieces_escapeChars cs, rfl⟩
      | single =>
        obtain ⟨hshown, hline, hrun⟩ := Style.holds_single (hfits rfl)
        have hself : ∀ c ∈ cs, isShown c := by
          intro c hc
          rcases hshown c hc with hshown | rfl
          · exact hshown
          · exact absurd hc (hline rfl)
        exact ⟨cs, pieces_self hself (Nat.le_zero.1 hrun), rfl⟩
    obtain ⟨body, hbody, hwrite⟩ := hpieces
    have hread := hbody.scanString fun _ => hrest
    rw [hwrite]
    simpa only [List.cons_append, List.append_assoc, List.nil_append] using hread
  | true =>
    have hlong : ∃ body, LongBody quote cs body ∧
        (Style.mk quote true).write cs = longChars quote cs body := by
      cases quote with
      | double =>
        refine ⟨_, longBody_escapeChars cs, ?_⟩
        simp [write, longChars, List.replicate]
      | single =>
        obtain ⟨hshown, -, hrun⟩ := Style.holds_single (hfits rfl)
        refine ⟨cs, longBody_self hshown hrun, ?_⟩
        simp [write, longChars, List.replicate]
    obtain ⟨body, hbody, hwrite⟩ := hlong
    rw [hwrite]
    exact hbody.scanString hrest

/-- A written string starts with the quotes of its style. -/
lemma Style.write_eq_cons (style : Style) (cs : List Char) :
    ∃ tail, style.write cs = style.quote.char :: tail := by
  obtain ⟨quote, isLong⟩ := style
  cases isLong <;> exact ⟨_, rfl⟩

/-- **A written string is read back**, up to what follows it, by the quote that it starts with. -/
lemma scanString_writeString (s : String) {rest : List Char}
    (hrest : ∀ quote : Quote, rest.head? ≠ some quote.char) :
    ∃ quote tail, writeString s = Quote.char quote :: tail ∧
      scanString quote (writeString s ++ rest) = some (s, rest) := by
  obtain ⟨tail, htail⟩ := (Style.of s.toList).write_eq_cons s.toList
  have hread := Style.scanString_write Style.holds_of_single
    (hrest (Style.of s.toList).quote)
  rw [String.ofList_toList] at hread
  exact ⟨_, tail, htail, hread⟩

end PaymentPlans.Toml
