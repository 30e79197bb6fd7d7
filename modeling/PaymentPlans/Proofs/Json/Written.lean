/-
# Reading what was written as JSON

What the writer puts down is understood by the readers, at any depth and whatever follows it.
A reader says what it makes of a written value; lists and records are put together from readers
of their parts, so the layout of the writer is dealt with here once and for all.
-/
import PaymentPlans.Json.Printer
import PaymentPlans.Json.Reader
import PaymentPlans.Proofs.Text.Front

namespace PaymentPlans.Json

open Text (byteCount)

/-! ## Strings -/

/-- The number of a control is read off its two digits. -/
lemma readHex_hexPair {n : Nat} (h : n < 0x20) (rest : List Char) :
    readHex ('0' :: '0' :: hexPair n ++ rest) = .ok (n, rest) := by
  have hvalue : ∀ n < 0x20, hexValue? ('0' :: '0' :: hexPair n) = some n := by decide
  have hlength : 4 ≤ byteCount ('0' :: '0' :: hexPair n ++ rest) := by
    refine Nat.le_trans ?_ (Text.length_le_byteCount _)
    simp only [List.length_append, List.length_cons, hexPair]
    omega
  have htake : ('0' :: '0' :: hexPair n ++ rest).take 4 = '0' :: '0' :: hexPair n := rfl
  rw [readHex, if_neg (Nat.not_lt.2 hlength), htake, hvalue n h]
  rfl

lemma readNumbered_hexPair {n : Nat} (h : n < 0x20) (rest : List Char) :
    readNumbered ('0' :: '0' :: hexPair n ++ rest) = .ok (Char.ofNat n, rest) := by
  have hlow : isLowHalf n = false := by simp [isLowHalf]; omega
  have hhigh : isHighHalf n = false := by simp [isHighHalf]; omega
  rw [readNumbered, readHex_hexPair h]
  simp only [ok_bind, hlow, hhigh]
  rfl

/-- What a character is written as: a short escape, a number, or itself. -/
inductive Escaped (c : Char) : List Char → Prop where
  | short (e : Char) (known : shortEscape? e = some c) (numbered : e ≠ 'u') : Escaped c ['\\', e]
  | numbered (control : c.toNat < 0x20) : Escaped c ('\\' :: 'u' :: '0' :: '0' :: hexPair c.toNat)
  | plain (quote : c ≠ '"') (backslash : c ≠ '\\') (shown : ¬ c.toNat < 0x20) : Escaped c [c]

lemma escaped_escape (c : Char) : Escaped c (escape c) := by
  unfold escape
  split
  · next h => exact .short '"' (by rw [h]; rfl) (by decide)
  split
  · next h => exact .short '\\' (by rw [h]; rfl) (by decide)
  split
  · next h => exact .short 'b' (by rw [h]; rfl) (by decide)
  split
  · next h => exact .short 'f' (by rw [h]; rfl) (by decide)
  split
  · next h => exact .short 'n' (by rw [h]; rfl) (by decide)
  split
  · next h => exact .short 'r' (by rw [h]; rfl) (by decide)
  split
  · next h => exact .short 't' (by rw [h]; rfl) (by decide)
  split
  · next h => exact .numbered h
  · next hquote hbackslash _ _ _ _ _ hshown => exact .plain hquote hbackslash hshown

lemma Escaped.length_pos {c : Char} {cs : List Char} (h : Escaped c cs) : 0 < cs.length := by
  cases h <;> exact Nat.succ_pos _

/-- One written character is taken at a time. -/
lemma Escaped.readCharsFuel {c : Char} {cs : List Char} (h : Escaped c cs) (fuel : Nat)
    (rest : List Char) : readCharsFuel (fuel + 1) (cs ++ rest) =
      (readCharsFuel fuel rest).map fun (ds, cs) => (c :: ds, cs) := by
  have hquote : ('\\' : Char) ≠ '"' := by decide
  cases h with
  | short e known numbered =>
    rw [List.cons_append, List.cons_append, List.nil_append, Json.readCharsFuel.eq_5 _ _ _ _ numbered,
      if_neg hquote, if_pos rfl, known]
  | numbered control =>
    have hread := readNumbered_hexPair control rest
    rw [Char.ofNat_toNat] at hread
    rw [List.cons_append, List.cons_append, Json.readCharsFuel.eq_4, if_neg hquote, if_pos rfl, hread]
    simp only [ok_bind]
    cases Json.readCharsFuel fuel rest <;> rfl
  | plain quote backslash shown =>
    rw [List.cons_append, List.nil_append, Json.readCharsFuel.eq_def]
    simp only [if_neg quote, if_neg backslash, if_neg shown]

/-- One written character is skipped at a time. -/
lemma Escaped.skipStringFuel {c : Char} {cs : List Char} (h : Escaped c cs) (fuel : Nat)
    (rest : List Char) : skipStringFuel (fuel + 1) (cs ++ rest) = skipStringFuel fuel rest := by
  have hquote : ('\\' : Char) ≠ '"' := by decide
  cases h with
  | short e known numbered =>
    rw [List.cons_append, List.cons_append, List.nil_append,
      Json.skipStringFuel.eq_5 _ _ _ _ numbered, if_neg hquote, if_pos rfl, known]
    rfl
  | numbered control =>
    rw [List.cons_append, List.cons_append, Json.skipStringFuel.eq_4, if_neg hquote, if_pos rfl,
      readHex_hexPair control]
    rfl
  | plain quote backslash shown =>
    rw [List.cons_append, List.nil_append, Json.skipStringFuel.eq_def]
    simp only [if_neg quote, if_neg backslash, if_neg shown]

/-- What a string is written as, behind its opening quote. -/
def bodyChars (cs : List Char) : List Char := cs.flatMap escape ++ ['"']

lemma readCharsFuel_bodyChars {fuel : Nat} {cs : List Char} (h : cs.length < fuel)
    (rest : List Char) : readCharsFuel fuel (bodyChars cs ++ rest) = .ok (cs, rest) := by
  induction cs generalizing fuel with
  | nil =>
    obtain ⟨fuel, rfl⟩ := Nat.exists_eq_add_one_of_ne_zero (Nat.pos_iff_ne_zero.1 h)
    rw [readCharsFuel.eq_def]
    rfl
  | cons c cs ih =>
    obtain ⟨fuel, rfl⟩ := Nat.exists_eq_add_one_of_ne_zero (Nat.ne_of_gt (Nat.zero_lt_of_lt h))
    rw [bodyChars, List.flatMap_cons, List.append_assoc, List.append_assoc,
      (escaped_escape c).readCharsFuel, ← List.append_assoc, ← bodyChars,
      ih (Nat.lt_of_succ_lt_succ h)]
    rfl

lemma skipStringFuel_bodyChars {fuel : Nat} {cs : List Char} (h : cs.length < fuel)
    (rest : List Char) : skipStringFuel fuel (bodyChars cs ++ rest) = .ok ((), rest) := by
  induction cs generalizing fuel with
  | nil =>
    obtain ⟨fuel, rfl⟩ := Nat.exists_eq_add_one_of_ne_zero (Nat.pos_iff_ne_zero.1 h)
    rw [skipStringFuel.eq_def]
    rfl
  | cons c cs ih =>
    obtain ⟨fuel, rfl⟩ := Nat.exists_eq_add_one_of_ne_zero (Nat.ne_of_gt (Nat.zero_lt_of_lt h))
    rw [bodyChars, List.flatMap_cons, List.append_assoc, List.append_assoc,
      (escaped_escape c).skipStringFuel, ← List.append_assoc, ← bodyChars,
      ih (Nat.lt_of_succ_lt_succ h)]

/-- No character is lost when it is written. -/
lemma length_lt_bodyChars (cs rest : List Char) : cs.length < (bodyChars cs ++ rest).length + 1 := by
  have hflat : cs.length ≤ (cs.flatMap escape).length := by
    induction cs with
    | nil => exact Nat.le_refl 0
    | cons c cs ih =>
      have hc := (escaped_escape c).length_pos
      rw [List.flatMap_cons, List.length_append, List.length_cons]
      omega
  rw [bodyChars, List.length_append, List.length_append]
  omega

lemma stringChars_eq (s : String) : stringChars s = '"' :: bodyChars s.toList := rfl

lemma readStringBody_bodyChars (s : String) (rest : List Char) :
    readStringBody (bodyChars s.toList ++ rest) = .ok (s, rest) := by
  rw [readStringBody, readCharsFuel_bodyChars (length_lt_bodyChars _ _)]
  simp only [map_ok, String.ofList_toList]

lemma skipStringBody_bodyChars (s : String) (rest : List Char) :
    skipStringBody (bodyChars s.toList ++ rest) = .ok ((), rest) :=
  skipStringFuel_bodyChars (length_lt_bodyChars _ _) rest

/-! ## Values -/

/-- Blanks before a value do not matter. -/
lemma skipBlanks_append {blanks : List Char} (h : ∀ c ∈ blanks, isBlank c) (cs : List Char) :
    skipBlanks (blanks ++ cs) = skipBlanks cs :=
  List.dropWhile_append_of_pos h

lemma isBlank_of_mem_newLine {depth : Nat} {c : Char} (h : c ∈ newLine depth) : isBlank c := by
  rcases List.mem_cons.1 h with rfl | h
  · rfl
  · rw [List.eq_of_mem_replicate h]
    rfl

lemma skipBlanks_newLine (depth : Nat) (cs : List Char) :
    skipBlanks (newLine depth ++ cs) = skipBlanks cs :=
  skipBlanks_append (fun _ => isBlank_of_mem_newLine) cs

/-- A reader takes a written value for `a`, whatever blanks stand before it, at any depth, and
whatever follows it. -/
def Takes {α : Type} (read : Reader α) (v : Value) (a : α) : Prop :=
  ∀ blanks depth rest, (∀ c ∈ blanks, isBlank c) →
    read (blanks ++ (v.chars depth ++ rest)) = .ok (a, rest)

lemma takes_readString (s : String) : Takes readString (.string s) s := by
  intro blanks depth rest hblanks
  rw [readString, skipBlanks_append hblanks, Value.chars, stringChars_eq]
  exact readStringBody_bodyChars s rest

lemma takes_readText {α : Type} {understand : String → Option α} {s : String} {a : α}
    (h : understand s = some a) : Takes (readText understand) (.string s) a := by
  intro blanks depth rest hblanks
  rw [readText, takes_readString s blanks depth rest hblanks, ok_bind]
  simp only [h]
  rfl

/-- A written string is not taken for a `null`. -/
lemma takes_readOption {α : Type} {read : Reader α} {s : String} {a : α}
    (h : Takes read (.string s) a) : Takes (readOption read) (.string s) (some a) := by
  intro blanks depth rest hblanks
  have hread := h [] depth rest nofun
  rw [readOption, skipBlanks_append hblanks]
  rw [List.nil_append, Value.chars, stringChars_eq] at hread
  rw [Value.chars, stringChars_eq]
  exact congrArg (Except.map _) hread

/-- Strings are skipped whole. -/
lemma takes_skipValue (s : String) : Takes skipValue (.string s) () := by
  intro blanks depth rest hblanks
  rw [skipValue, skipValueFuel, skipBlanks_append hblanks, Value.chars, stringChars_eq]
  exact skipStringBody_bodyChars s rest

/-! ## Lists -/

/-- A written value starts with a character of its own, which ends no list. -/
lemma exists_chars_eq_cons (v : Value) (depth : Nat) :
    ∃ c cs, v.chars depth = c :: cs ∧ isBlank c = false ∧ c ≠ ']' := by
  cases v with
  | string s => exact ⟨'"', _, rfl, rfl, by decide⟩
  | list items =>
    cases items with
    | nil => exact ⟨'[', _, by rw [Value.chars], rfl, by decide⟩
    | cons => exact ⟨'[', _, by rw [Value.chars], rfl, by decide⟩
  | object members =>
    cases members with
    | nil => exact ⟨'\x7b', _, by rw [Value.chars], rfl, by decide⟩
    | cons => exact ⟨'\x7b', _, by rw [Value.chars], rfl, by decide⟩

variable {α σ : Type} {read : Reader α}

lemma skipBlanks_cons {c : Char} (h : isBlank c = false) (cs : List Char) :
    skipBlanks (c :: cs) = c :: cs :=
  Text.dropWhile_eq_self (Text.stopsAt_cons h cs)

lemma readItem_true {v : Value} {a : α} (h : Takes read v a) (depth : Nat) (rest : List Char) :
    readItem read true (newLine depth ++ (v.chars depth ++ rest)) = .ok (some a, rest) := by
  have hread := h [] depth rest nofun
  obtain ⟨c, cs, hchars, hblank, hc⟩ := exists_chars_eq_cons v depth
  rw [hchars, List.nil_append, List.cons_append] at hread
  rw [readItem, skipBlanks_newLine, hchars, List.cons_append, skipBlanks_cons hblank]
  split
  · next heq => exact nomatch heq
  · next heq => exact absurd (List.cons.inj heq).1 hc
  · next heq =>
    obtain ⟨rfl, rfl⟩ := List.cons.inj heq
    rw [if_pos rfl, hread, map_ok]

lemma readItem_comma (cs : List Char) : readItem read false (',' :: cs) =
    match skipBlanks cs with
    | [] => .error .ended
    | ']' :: _ => .error .malformed
    | cs => (read cs).map fun (a, cs) => (some a, cs) := rfl

lemma readItem_false {v : Value} {a : α} (h : Takes read v a) (depth : Nat) (rest : List Char) :
    readItem read false (',' :: (newLine depth ++ (v.chars depth ++ rest))) =
      .ok (some a, rest) := by
  have hread := h [] depth rest nofun
  obtain ⟨c, cs, hchars, hblank, hc⟩ := exists_chars_eq_cons v depth
  rw [hchars, List.nil_append, List.cons_append] at hread
  have hskip : skipBlanks (newLine depth ++ (v.chars depth ++ rest)) = c :: (cs ++ rest) := by
    rw [skipBlanks_newLine, hchars, List.cons_append, skipBlanks_cons hblank]
  rw [readItem_comma, hskip]
  split
  · next heq => exact nomatch heq
  · next heq => exact absurd (List.cons.inj heq).1 hc
  · rw [hread, map_ok]

/-- The end of a list is left for the one who started it. -/
lemma readItem_end (first : Bool) (depth : Nat) (rest : List Char) :
    readItem read first (newLine depth ++ ']' :: rest) = .ok (none, ']' :: rest) := by
  rw [readItem, skipBlanks_newLine]
  rfl

/-- The items behind the first one are taken one by one. -/
lemma readItemsFuel_restItems {items : List Value} {as : List α}
    (h : List.Forall₂ (Takes read) items as) {fuel : Nat} (hfuel : items.length < fuel)
    (depth outer : Nat) (rest : List Char) :
    readItemsFuel read fuel false (restItems depth items ++ (newLine outer ++ ']' :: rest)) =
      .ok (as, ']' :: rest) := by
  induction h generalizing fuel with
  | nil =>
    obtain ⟨fuel, rfl⟩ := Nat.exists_eq_add_one_of_ne_zero (Nat.ne_of_gt (Nat.zero_lt_of_lt hfuel))
    rw [restItems, List.nil_append, readItemsFuel, readItem_end]
    rfl
  | @cons v a items as hv hitems ih =>
    obtain ⟨fuel, rfl⟩ := Nat.exists_eq_add_one_of_ne_zero (Nat.ne_of_gt (Nat.zero_lt_of_lt hfuel))
    rw [restItems, List.cons_append, List.append_assoc, List.append_assoc, readItemsFuel,
      readItem_false hv]
    simp only [ok_bind, ih (Nat.lt_of_succ_lt_succ hfuel)]
    rfl

lemma length_le_restItems (depth : Nat) (items : List Value) :
    items.length ≤ (restItems depth items).length := by
  induction items with
  | nil => exact Nat.le_refl 0
  | cons v items ih =>
    rw [restItems, List.length_cons, List.length_cons, List.length_append, List.length_append]
    omega

/-- A list is taken item by item. -/
lemma takes_readList {items : List Value} {as : List α} (h : List.Forall₂ (Takes read) items as) :
    Takes (readList read) (.list items) as := by
  intro blanks depth rest hblanks
  rw [readList, skipBlanks_append hblanks]
  cases h with
  | nil => rw [Value.chars]; rfl
  | @cons v a items as hv hitems =>
    rw [Value.chars]
    simp only [List.cons_append, List.append_assoc, List.nil_append]
    rw [skipBlanks_cons rfl]
    have hlength : items.length < (newLine (depth + 1) ++ (v.chars (depth + 1) ++
        (restItems (depth + 1) items ++ (newLine depth ++ ']' :: rest)))).length := by
      have hitems := length_le_restItems (depth + 1) items
      simp only [List.length_append, List.length_cons]
      omega
    simp only [readItemsFuel, readItem_true hv, ok_bind, readItemsFuel_restItems hitems hlength]
    rfl

/-! ## Records -/

/-- A member whose key is taken adds its value to what has been read: `state` becomes `state'`. -/
def Adds (member : String → σ → Reader σ) (key : String) (v : Value) (state state' : σ) : Prop :=
  ∀ depth rest, member key state (':' :: ' ' :: (v.chars depth ++ rest)) = .ok (state', rest)

/-- Members add their values one after the other. -/
inductive AddsAll (member : String → σ → Reader σ) : List (String × Value) → σ → σ → Prop where
  | nil (state : σ) : AddsAll member [] state state
  | cons {key : String} {v : Value} {members : List (String × Value)} {state state' final : σ}
      (first : Adds member key v state state') (others : AddsAll member members state' final) :
      AddsAll member ((key, v) :: members) state final

/-- A value that is wanted is taken behind its colon. -/
lemma readOnce_none {v : Value} {a : α} (h : Takes read v a) (depth : Nat) (rest : List Char) :
    readOnce none read (':' :: ' ' :: (v.chars depth ++ rest)) = .ok (a, rest) :=
  h [' '] depth rest (List.forall_mem_singleton.2 rfl)

/-- A string that is not wanted is left out. -/
lemma skipMember_string (state : σ) (s : String) (depth : Nat) (rest : List Char) :
    skipMember state (':' :: ' ' :: ((Value.string s).chars depth ++ rest)) = .ok (state, rest) := by
  have hskip := takes_skipValue s [' '] depth rest (List.forall_mem_singleton.2 rfl)
  have hcolon : ∀ cs, readColon (':' :: cs) = .ok ((), cs) := fun _ => rfl
  rw [List.cons_append, List.nil_append] at hskip
  simp only [skipMember, hcolon, ok_bind, hskip]
  rfl

lemma readKey_true (key : String) (depth : Nat) (rest : List Char) :
    readKey true (newLine depth ++ (stringChars key ++ rest)) = .ok (some key, rest) := by
  rw [readKey, skipBlanks_newLine, stringChars_eq, List.cons_append, skipBlanks_cons rfl]
  exact congrArg (Except.map _) (readStringBody_bodyChars key rest)

/-- Behind a comma there must be a key. -/
lemma readKey_comma (cs : List Char) : readKey false (',' :: cs) =
    match skipBlanks cs with
    | [] => .error .ended
    | '"' :: cs => (readStringBody cs).map fun (key, cs) => (some key, cs)
    | _ => .error .malformed := rfl

lemma readKey_false (key : String) (depth : Nat) (rest : List Char) :
    readKey false (',' :: (newLine depth ++ (stringChars key ++ rest))) = .ok (some key, rest) := by
  rw [readKey_comma, skipBlanks_newLine, stringChars_eq, List.cons_append, skipBlanks_cons rfl]
  exact congrArg (Except.map _) (readStringBody_bodyChars key rest)

/-- The end of an object is left for the one who started it. -/
lemma readKey_end (first : Bool) (depth : Nat) (rest : List Char) :
    readKey first (newLine depth ++ '\x7d' :: rest) = .ok (none, '\x7d' :: rest) := by
  rw [readKey, skipBlanks_newLine]
  rfl

variable {member : String → σ → Reader σ}

/-- The members behind the first one are taken one by one. -/
lemma readMembersFuel_restMembers {members : List (String × Value)} {state final : σ}
    (h : AddsAll member members state final) {fuel : Nat} (hfuel : members.length < fuel)
    (depth outer : Nat) (rest : List Char) :
    readMembersFuel member fuel false state
        (restMembers depth members ++ (newLine outer ++ '\x7d' :: rest)) =
      .ok (final, '\x7d' :: rest) := by
  induction h generalizing fuel with
  | nil state =>
    obtain ⟨fuel, rfl⟩ := Nat.exists_eq_add_one_of_ne_zero (Nat.ne_of_gt (Nat.zero_lt_of_lt hfuel))
    rw [restMembers, List.nil_append, readMembersFuel, readKey_end]
    rfl
  | cons first others ih =>
    obtain ⟨fuel, rfl⟩ := Nat.exists_eq_add_one_of_ne_zero (Nat.ne_of_gt (Nat.zero_lt_of_lt hfuel))
    rw [restMembers]
    simp only [List.cons_append, List.append_assoc, List.nil_append]
    simp only [readMembersFuel, readKey_false, ok_bind, first depth,
      ih (Nat.lt_of_succ_lt_succ hfuel)]

lemma length_le_restMembers (depth : Nat) (members : List (String × Value)) :
    members.length ≤ (restMembers depth members).length := by
  induction members with
  | nil => exact Nat.le_refl 0
  | cons m members ih =>
    rw [restMembers, List.length_cons, List.length_cons, List.length_append]
    omega

/-- An object is taken member by member, and finished. -/
lemma takes_readRecord {members : List (String × Value)} {empty final : σ}
    {finish : σ → Except Fault α} {inOrder : Reader α} {a : α}
    (h : AddsAll member members empty final) (hfinish : finish final = .ok a) :
    Takes (readRecord empty member finish inOrder) (.object members) a := by
  intro blanks depth rest hblanks
  rw [readRecord, skipBlanks_append hblanks]
  cases h with
  | nil =>
    have hend : readKey true ('\x7d' :: rest) = .ok (none, '\x7d' :: rest) := rfl
    rw [Value.chars, List.cons_append, skipBlanks_cons rfl]
    simp only [List.cons_append, List.nil_append, readMembersFuel, hend, ok_bind, pure, Except.pure,
      hfinish]
    rfl
  | @cons key v members state state' final first others =>
    rw [Value.chars]
    simp only [List.cons_append, List.append_assoc, List.nil_append]
    rw [skipBlanks_cons rfl]
    have hlength : members.length < (newLine (depth + 1) ++ (stringChars key ++ (':' :: ' ' ::
        (v.chars (depth + 1) ++ (restMembers (depth + 1) members ++
          (newLine depth ++ '\x7d' :: rest)))))).length := by
      have hmembers := length_le_restMembers (depth + 1) members
      simp only [List.length_append, List.length_cons]
      omega
    simp only [readMembersFuel, readKey_true, ok_bind, first (depth + 1),
      readMembersFuel_restMembers others hlength, hfinish]
    rfl

end PaymentPlans.Json
