/-
# Reading strings of TOML

A string stands between double quotes, where a backslash starts an escape, or between single
quotes, where all characters stand for themselves.  With one quote on either side it has to end
on its line; with three it may go on over many, and one or two quotes may stand in it.
-/
import PaymentPlans.Toml.Scan

namespace PaymentPlans.Toml

/-- The quotes that strings stand between. -/
inductive Quote where
  /-- The double quote; escapes are read. -/
  | double
  /-- The single quote; nothing is read but the quote itself. -/
  | single
deriving DecidableEq, Repr

/-- The character of a quote. -/
def Quote.char : Quote → Char
  | double => '"'
  | single => '\''

/-! ## Escapes -/

/-- The character that a short escape stands for. -/
def shortEscape? : Char → Option Char
  | 'b' => some '\x08'
  | 't' => some '\t'
  | 'n' => some '\n'
  | 'f' => some '\x0c'
  | 'r' => some '\r'
  | '"' => some '"'
  | '\\' => some '\\'
  | _ => none

/-- The value of a hexadecimal digit. -/
def hexDigit? (c : Char) : Option Nat :=
  if c.isDigit then some (c.toNat - '0'.toNat)
  else if 'a' ≤ c ∧ c ≤ 'f' then some (c.toNat - 'a'.toNat + 10)
  else if 'A' ≤ c ∧ c ≤ 'F' then some (c.toNat - 'A'.toNat + 10)
  else none

/-- The character with a number, if there is one. -/
def charOfNumber? (n : Nat) : Option Char := if n.isValidChar then some (Char.ofNat n) else none

/-- Takes a character that is given by its number in some hexadecimal digits. -/
def scanNumbered (count : Nat) : Scan Char := fun cs => do
  let ds ← (cs.take count).mapM hexDigit?
  if ds.length = count then
    return (← charOfNumber? (ds.foldl (fun n d => n * 16 + d) 0), cs.drop count)
  else none

/-- Takes an escape, behind its backslash. -/
def scanEscape : Scan Char
  | [] => none
  | 'u' :: cs => scanNumbered 4 cs
  | 'U' :: cs => scanNumbered 8 cs
  | c :: cs => (shortEscape? c).map fun d => (d, cs)

/-! ## Strings on one line -/

/-- Takes the characters of a string up to its closing quote. -/
def scanShortFuel (quote : Quote) : Nat → Scan (List Char)
  | 0, _ => none
  | _ + 1, [] => none
  | fuel + 1, c :: cs =>
    if c = quote.char then some ([], cs)
    else if c = '\\' ∧ quote = .double then do
      let (d, cs) ← scanEscape cs
      let (ds, cs) ← scanShortFuel quote fuel cs
      return (d :: ds, cs)
    else if isShown c then (scanShortFuel quote fuel cs).map fun (ds, cs) => (c :: ds, cs)
    else none

/-- Takes a string on one line, behind its opening quote. -/
def scanShort (quote : Quote) : Scan (List Char) := fun cs =>
  scanShortFuel quote (cs.length + 1) cs

/-! ## Strings over many lines -/

/-- Takes the characters of a string up to its three closing quotes.  Up to five quotes in a row
close it, and those before the last three belong to it.  A backslash at the end of a line joins
it to the next character that is no gap. -/
def scanLongFuel (quote : Quote) : Nat → Scan (List Char)
  | 0, _ => none
  | _ + 1, [] => none
  | fuel + 1, c :: cs =>
    if c = quote.char then
      let more := cs.takeWhile (· == quote.char)
      let rest := cs.drop more.length
      if 5 ≤ more.length then none
      else if 2 ≤ more.length then some (more.drop 2, rest)
      else (scanLongFuel quote fuel rest).map fun (ds, cs) => (c :: (more ++ ds), cs)
    else if c = '\\' ∧ quote = .double then
      match scanNewline (skipGap cs) with
      | some ((), cs) => scanLongFuel quote fuel (skipLines cs)
      | none => do
        let (d, cs) ← scanEscape cs
        let (ds, cs) ← scanLongFuel quote fuel cs
        return (d :: ds, cs)
    else if isShown c then (scanLongFuel quote fuel cs).map fun (ds, cs) => (c :: ds, cs)
    else do
      let ((), cs) ← scanNewline (c :: cs)
      let (ds, cs) ← scanLongFuel quote fuel cs
      return ('\n' :: ds, cs)

/-- Takes a string over many lines, behind its opening quotes.  A line that ends right there does
not belong to it. -/
def scanLong (quote : Quote) : Scan (List Char) := fun cs =>
  let body := (scanNewline cs).elim cs Prod.snd
  scanLongFuel quote (body.length + 1) body

/-- Takes a string with its quotes. -/
def scanString (quote : Quote) : Scan String := fun cs =>
  let opening := [quote.char, quote.char, quote.char]
  let read := if opening.isPrefixOf cs then scanLong quote (cs.drop 3)
    else scanChar quote.char cs >>= fun ((), cs) => scanShort quote cs
  read.map fun (ds, rest) => (String.ofList ds, rest)

end PaymentPlans.Toml
