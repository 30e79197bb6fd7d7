/-
# Reading JSON

A text is read front to back straight into the value that is wanted: a reader takes what it
needs from the front of the text and gives back the rest.  So the first thing that is wrong is
the one that counts, be it the text that ends, a text that is no JSON, or JSON of another shape
than the one that is wanted.  What is not wanted is checked and skipped.
-/
import PaymentPlans.Text.Bytes
import PaymentPlans.Text.Numeral

namespace PaymentPlans.Json

open Text (Numeral byteCount)

/-- Why a text cannot be read. -/
inductive Fault where
  /-- The text ends early. -/
  | ended
  /-- The text is no JSON. -/
  | malformed
  /-- The text is JSON, but of another shape or with another content than is wanted. -/
  | unsuitable
deriving DecidableEq, Repr

/-- A reader of the front of a text, which gives back what it has not read. -/
abbrev Reader (α : Type) := List Char → Except Fault (α × List Char)

/-- Whether a character may stand between the parts of a text without any meaning. -/
def isBlank (c : Char) : Bool := c == ' ' || c == '\n' || c == '\t' || c == '\r'

/-- Leaves out the blanks at the front. -/
def skipBlanks (cs : List Char) : List Char := cs.dropWhile isBlank

/-- Takes the rest of a word whose first letter is known. -/
def readWord : List Char → Reader Unit
  | [], cs => .ok ((), cs)
  | _ :: _, [] => .error .ended
  | expected :: es, c :: cs => if c = expected then readWord es cs else .error .malformed

/-! ## Strings -/

/-- The value of four hexadecimal digits. -/
def hexValue? (cs : List Char) : Option Nat :=
  cs.foldlM (fun n c =>
    if c.isDigit then some (n * 16 + (c.toNat - '0'.toNat))
    else if 'a' ≤ c ∧ c ≤ 'f' then some (n * 16 + (c.toNat - 'a'.toNat + 10))
    else if 'A' ≤ c ∧ c ≤ 'F' then some (n * 16 + (c.toNat - 'A'.toNat + 10))
    else none) 0

/-- Takes the four digits of a numbered character. -/
def readHex : Reader Nat := fun cs =>
  if byteCount cs < 4 then .error .ended
  else match hexValue? (cs.take 4) with
    | some n => if (cs.take 4).length = 4 then .ok (n, cs.drop 4) else .error .malformed
    | none => .error .malformed

/-- The character that a short escape stands for. -/
def shortEscape? : Char → Option Char
  | '"' => some '"'
  | '\\' => some '\\'
  | '/' => some '/'
  | 'b' => some '\x08'
  | 'f' => some '\x0c'
  | 'n' => some '\n'
  | 'r' => some '\r'
  | 't' => some '\t'
  | _ => none

/-- Whether a number is the first half of a character beyond the 16-bit ones. -/
def isHighHalf (n : Nat) : Bool := 0xD800 ≤ n && n ≤ 0xDBFF

/-- Whether a number is the second half of a character beyond the 16-bit ones. -/
def isLowHalf (n : Nat) : Bool := 0xDC00 ≤ n && n ≤ 0xDFFF

/-- Takes a numbered character, behind its `\u`.  Two halves have to come together. -/
def readNumbered : Reader Char := fun cs => do
  let (n, cs) ← readHex cs
  if isLowHalf n then throw .malformed
  if isHighHalf n then
    let ((), cs) ← readWord ['\\', 'u'] cs
    let (m, cs) ← readHex cs
    if isLowHalf m then return (Char.ofNat ((n - 0xD800) * 0x400 + (m - 0xDC00) + 0x10000), cs)
    else throw .malformed
  else return (Char.ofNat n, cs)

/-- Takes the characters of a string up to its closing quote. -/
def readCharsFuel : Nat → Reader (List Char)
  | 0, _ => .error .ended
  | _ + 1, [] => .error .ended
  | fuel + 1, c :: cs =>
    if c = '"' then .ok ([], cs)
    else if c = '\\' then
      match cs with
      | [] => .error .ended
      | 'u' :: cs => do
        let (d, cs) ← readNumbered cs
        let (ds, cs) ← readCharsFuel fuel cs
        return (d :: ds, cs)
      | e :: cs =>
        match shortEscape? e with
        | some d => (readCharsFuel fuel cs).map fun (ds, cs) => (d :: ds, cs)
        | none => .error .malformed
    else if c.toNat < 0x20 then .error .malformed
    else (readCharsFuel fuel cs).map fun (ds, cs) => (c :: ds, cs)

/-- Takes a string behind its opening quote. -/
def readStringBody : Reader String := fun cs =>
  (readCharsFuel (cs.length + 1) cs).map fun (ds, cs) => (String.ofList ds, cs)

/-- Skips a string behind its opening quote; halves of characters need not come together. -/
def skipStringFuel : Nat → Reader Unit
  | 0, _ => .error .ended
  | _ + 1, [] => .error .ended
  | fuel + 1, c :: cs =>
    if c = '"' then .ok ((), cs)
    else if c = '\\' then
      match cs with
      | [] => .error .ended
      | 'u' :: cs => readHex cs >>= fun (_, cs) => skipStringFuel fuel cs
      | e :: cs => if (shortEscape? e).isSome then skipStringFuel fuel cs else .error .malformed
    else if c.toNat < 0x20 then .error .malformed
    else skipStringFuel fuel cs

/-- Skips a string behind its opening quote. -/
def skipStringBody : Reader Unit := fun cs => skipStringFuel (cs.length + 1) cs

/-! ## Numbers -/

/-- Takes the digits before the point.  A zero in front stands alone. -/
def readWhole (atEnd : Fault) : Reader (List Char)
  | [] => .error atEnd
  | '0' :: cs => if (cs.head?.any Char.isDigit) then .error .malformed else .ok (['0'], cs)
  | c :: cs =>
    if c.isDigit then .ok (c :: cs.takeWhile Char.isDigit, cs.dropWhile Char.isDigit)
    else .error .malformed

/-- Takes one or more digits. -/
def readDigits (atEnd : Fault) : Reader (List Char) := fun cs =>
  match cs.takeWhile Char.isDigit, cs.dropWhile Char.isDigit with
  | [], [] => .error atEnd
  | [], _ :: _ => .error .malformed
  | ds, rest => .ok (ds, rest)

/-- Takes the point and the digits behind it, if there is a point. -/
def readFraction (atEnd : Fault) : Reader (List Char)
  | '.' :: cs => readDigits atEnd cs
  | cs => .ok ([], cs)

/-- Takes the exponent, if there is one. -/
def readExponent (atEnd : Fault) : Reader Int
  | c :: cs =>
    if c = 'e' ∨ c = 'E' then
      match cs with
      | '+' :: cs => (readDigits atEnd cs).map fun (ds, cs) => ((Text.ofDigits ds : Int), cs)
      | '-' :: cs => (readDigits atEnd cs).map fun (ds, cs) => (-(Text.ofDigits ds : Int), cs)
      | cs => (readDigits atEnd cs).map fun (ds, cs) => ((Text.ofDigits ds : Int), cs)
    else .ok (0, c :: cs)
  | [] => .ok (0, [])

/-- Puts digits behind a number up to the first one with which it would reach 2⁶⁴, and gives back
that one and those behind it. -/
def pushDigits (n : Nat) : List Char → Nat × List Char
  | [] => (n, [])
  | c :: cs =>
    let next := n * 10 + (c.toNat - '0'.toNat)
    if next < 1 <<< 64 then pushDigits next cs else (n, c :: cs)

/-- The number with these digits before and behind the point.  Only digits that stay below 2⁶⁴
count, first those before the point and then those behind it. -/
def numeral (whole places : List Char) (exponent : Int) : Numeral :=
  let (digits, wholeLeft) := pushDigits 0 whole
  let (digits, placesLeft) := pushDigits digits places
  ⟨digits, exponent + wholeLeft.length - (places.length - placesLeft.length)⟩

/-- Takes a number without its sign; `atEnd` is the fault of a text that ends in its middle. -/
def readNumeral (atEnd : Fault) : Reader Numeral := fun cs => do
  let (whole, cs) ← readWhole atEnd cs
  let (places, cs) ← readFraction atEnd cs
  let (exponent, cs) ← readExponent atEnd cs
  return (numeral whole places exponent, cs)

/-! ## Values that are not wanted -/

/-- Skips a number without its sign. -/
def skipNumeral : Reader Unit := fun cs =>
  (readNumeral .malformed cs).map fun (_, cs) => ((), cs)

/-- Takes the colon behind a key. -/
def readColon : Reader Unit := fun cs =>
  match skipBlanks cs with
  | [] => .error .ended
  | c :: cs => if c = ':' then .ok ((), cs) else .error .malformed

mutual

/-- Skips a value. -/
def skipValueFuel : Nat → Reader Unit
  | 0, _ => .error .ended
  | fuel + 1, cs =>
    match skipBlanks cs with
    | [] => .error .ended
    | 'n' :: cs => readWord ['u', 'l', 'l'] cs
    | 't' :: cs => readWord ['r', 'u', 'e'] cs
    | 'f' :: cs => readWord ['a', 'l', 's', 'e'] cs
    | '"' :: cs => skipStringBody cs
    | '-' :: cs => skipNumeral cs
    | '[' :: cs => skipItemsFuel fuel true cs
    | '\x7b' :: cs => skipMembersFuel fuel true cs
    | c :: cs => if c.isDigit then skipNumeral (c :: cs) else .error .malformed

/-- Skips the items of a list and its end. -/
def skipItemsFuel : Nat → Bool → Reader Unit
  | 0, _, _ => .error .ended
  | fuel + 1, first, cs =>
    match skipBlanks cs with
    | [] => .error .ended
    | ']' :: cs => .ok ((), cs)
    | c :: cs =>
      if first then skipValueFuel fuel (c :: cs) >>= fun (_, cs) => skipItemsFuel fuel false cs
      else if c = ',' then skipValueFuel fuel cs >>= fun (_, cs) => skipItemsFuel fuel false cs
      else .error .malformed

/-- Skips the members of an object and its end. -/
def skipMembersFuel : Nat → Bool → Reader Unit
  | 0, _, _ => .error .ended
  | fuel + 1, first, cs =>
    match skipBlanks cs with
    | [] => .error .ended
    | '\x7d' :: cs => .ok ((), cs)
    | c :: cs => do
      let key := if first then c :: cs else skipBlanks cs
      if !first && c != ',' then throw .malformed
      let cs ← match key with
        | [] => throw .ended
        | '"' :: cs => pure cs
        | _ :: _ => throw .malformed
      let ((), cs) ← skipStringBody cs
      let ((), cs) ← readColon cs
      let ((), cs) ← skipValueFuel fuel cs
      skipMembersFuel fuel false cs

end

/-- Skips a value. -/
def skipValue : Reader Unit := fun cs => skipValueFuel (2 * cs.length + 2) cs

/-! ## Values that are wanted -/

/-- The fault of a value of another kind than is wanted.  As far as it has to be looked at, it
has to be JSON. -/
def mismatch (cs : List Char) : Fault :=
  let result : Except Fault Unit := match cs with
    | 'n' :: cs => (readWord ['u', 'l', 'l'] cs).map fun _ => ()
    | 't' :: cs => (readWord ['r', 'u', 'e'] cs).map fun _ => ()
    | 'f' :: cs => (readWord ['a', 'l', 's', 'e'] cs).map fun _ => ()
    | '"' :: cs => (readStringBody cs).map fun _ => ()
    | '[' :: _ => .ok ()
    | '\x7b' :: _ => .ok ()
    | cs => do
      let cs ← match cs with
        | '-' :: cs => pure cs
        | c :: cs => if c.isDigit then pure (c :: cs) else throw .malformed
        | [] => throw .malformed
      let (n, _) ← readNumeral .ended cs
      if n.hasTooLargeProduct then throw .malformed
  match result with
  | .ok () => .unsuitable
  | .error fault => fault

/-- Takes a string. -/
def readString : Reader String := fun cs =>
  match skipBlanks cs with
  | [] => .error .ended
  | '"' :: cs => readStringBody cs
  | cs => .error (mismatch cs)

/-- Takes a string that a function understands. -/
def readText (understand : String → Option α) : Reader α := fun cs => do
  let (text, cs) ← readString cs
  match understand text with
  | some a => return (a, cs)
  | none => throw .unsuitable

/-- Takes a `null`. -/
def readNull : Reader Unit := fun cs =>
  match skipBlanks cs with
  | [] => .error .ended
  | 'n' :: cs => readWord ['u', 'l', 'l'] cs
  | cs => .error (mismatch cs)

/-- Takes a value, or a `null` in its place. -/
def readOption (read : Reader α) : Reader (Option α) := fun cs =>
  match skipBlanks cs with
  | 'n' :: cs => (readWord ['u', 'l', 'l'] cs).map fun (_, cs) => (none, cs)
  | cs => (read cs).map fun (a, cs) => (some a, cs)

/-- Takes the next item of a list, if there is one; its end is left in the text. -/
def readItem (read : Reader α) (first : Bool) : Reader (Option α) := fun cs =>
  match skipBlanks cs with
  | [] => .error .ended
  | ']' :: cs => .ok (none, ']' :: cs)
  | c :: cs =>
    if first then (read (c :: cs)).map fun (a, cs) => (some a, cs)
    else if c = ',' then
      match skipBlanks cs with
      | [] => .error .ended
      | ']' :: _ => .error .malformed
      | cs => (read cs).map fun (a, cs) => (some a, cs)
    else .error .malformed

/-- Takes the end of a list. -/
def readListEnd : Reader Unit := fun cs =>
  match skipBlanks cs with
  | [] => .error .ended
  | ']' :: cs => .ok ((), cs)
  | _ => .error .malformed

/-- Takes the items of a list up to its end, which is left in the text. -/
def readItemsFuel (read : Reader α) : Nat → Bool → Reader (List α)
  | 0, _, _ => .error .ended
  | fuel + 1, first, cs => do
    match ← readItem read first cs with
    | (none, cs) => return ([], cs)
    | (some a, cs) =>
      let (as, cs) ← readItemsFuel read fuel false cs
      return (a :: as, cs)

/-- Takes a list. -/
def readList (read : Reader α) : Reader (List α) := fun cs =>
  match skipBlanks cs with
  | [] => .error .ended
  | '[' :: cs => do
    let (as, cs) ← readItemsFuel read (cs.length + 1) true cs
    let ((), cs) ← readListEnd cs
    return (as, cs)
  | cs => .error (mismatch cs)

/-- Takes the next key of an object, if there is one; the end of the object is left in the
text. -/
def readKey (first : Bool) : Reader (Option String) := fun cs =>
  match skipBlanks cs with
  | [] => .error .ended
  | '\x7d' :: cs => .ok (none, '\x7d' :: cs)
  | c :: cs =>
    if first then
      if c = '"' then (readStringBody cs).map fun (key, cs) => (some key, cs)
      else .error .malformed
    else if c = ',' then
      match skipBlanks cs with
      | [] => .error .ended
      | '"' :: cs => (readStringBody cs).map fun (key, cs) => (some key, cs)
      | _ => .error .malformed
    else .error .malformed

/-- Takes the members of an object up to its end, which is left in the text.  `member` takes one
of them behind its key and adds it to what has been read. -/
def readMembersFuel (member : String → σ → Reader σ) : Nat → Bool → σ → Reader σ
  | 0, _, _, _ => .error .ended
  | fuel + 1, first, state, cs => do
    match ← readKey first cs with
    | (none, cs) => return (state, cs)
    | (some key, cs) =>
      let (state, cs) ← member key state cs
      readMembersFuel member fuel false state cs

/-- Takes the end of an object. -/
def readObjectEnd : Reader Unit := fun cs =>
  match skipBlanks cs with
  | [] => .error .ended
  | '\x7d' :: cs => .ok ((), cs)
  | _ => .error .malformed

/-- Takes a record: an object whose members are added up and then finished, or a list of its
fields in their order. -/
def readRecord (empty : σ) (member : String → σ → Reader σ) (finish : σ → Except Fault α)
    (inOrder : Reader α) : Reader α := fun cs =>
  match skipBlanks cs with
  | [] => .error .ended
  | '\x7b' :: cs => do
    let (state, cs) ← readMembersFuel member (cs.length + 1) true empty cs
    let a ← finish state
    let ((), cs) ← readObjectEnd cs
    return (a, cs)
  | '[' :: cs => do
    let (a, cs) ← inOrder cs
    let ((), cs) ← readListEnd cs
    return (a, cs)
  | cs => .error (mismatch cs)

/-- Takes the value of a member that must not have come before. -/
def readOnce (slot : Option α) (read : Reader α) : Reader α := fun cs =>
  if slot.isSome then .error .unsuitable
  else readColon cs >>= fun (_, cs) => read cs

/-- Skips the value of a member that is not wanted. -/
def skipMember (state : σ) : Reader σ := fun cs => do
  let ((), cs) ← readColon cs
  let ((), cs) ← skipValue cs
  return (state, cs)

/-- A field that has to be there. -/
def require (slot : Option α) : Except Fault α :=
  match slot with
  | some a => .ok a
  | none => .error .unsuitable

/-- Takes a field of a record that is written as a list. -/
def readRequired (read : Reader α) (first : Bool) : Reader α := fun cs => do
  let (slot, cs) ← readItem read first cs
  let a ← require slot
  return (a, cs)

/-- Takes the blanks before a key; nothing but a key may follow. -/
def expectKey : Reader Unit := fun cs =>
  match skipBlanks cs with
  | [] => .error .ended
  | '"' :: cs => .ok ((), '"' :: cs)
  | _ => .error .malformed

/-- Takes the name of one of several cases: a string, or an object with that name as its only
key and `null` as its value. -/
def readCase (understand : String → Option α) : Reader α := fun cs =>
  match skipBlanks cs with
  | [] => .error .ended
  | '"' :: cs => readText understand ('"' :: cs)
  | '\x7b' :: cs => do
    let ((), cs) ← expectKey cs
    let (a, cs) ← readText understand cs
    let ((), cs) ← readColon cs
    let ((), cs) ← readNull cs
    let ((), cs) ← readObjectEnd cs
    return (a, cs)
  | _ => .error .malformed

/-- Reads a whole text. -/
def readAll (read : Reader α) (text : String) : Except Fault α := do
  let (a, cs) ← read text.toList
  if skipBlanks cs = [] then return a else throw .malformed

end PaymentPlans.Json
