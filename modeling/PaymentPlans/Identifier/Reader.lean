/-
# Reading identifiers

An identifier is accepted as 32 hexadecimal digits in one run, or in five groups with hyphens
between them; the grouped form may stand in braces or behind `urn:uuid:`.  Letters may be of
either case.

Each of the four forms has a length of its own.  A text that has the length and the wrapping of a
form is held to be of that form, and what is wrong with it is told of the digits alone; of all
other texts it is told as they stand, wrapping included.
-/
import PaymentPlans.Identifier.Basic
import PaymentPlans.Text.Blank
import PaymentPlans.Text.Bytes

namespace PaymentPlans.Identifier

open Text (byteCount)

/-- Why a text is not an identifier. -/
inductive Fault where
  /-- A character that is no hexadecimal digit and no hyphen, and the byte at which it stands. -/
  | strayCharacter (found : Char) (byte : Nat)
  /-- No text, too long a text, or a run of digits that are not 32: so many bytes. -/
  | badLength (bytes : Nat)
  | badGroupCount (count : Nat)
  /-- The first group that has not the digits it should have. -/
  | badGroupLength (group expected found : Nat)
deriving DecidableEq, Repr

/-- The wording of a fault. -/
def Fault.message : Fault → String
  | strayCharacter found byte =>
      "invalid character: found `" ++ String.singleton found ++ "` at " ++ toString byte
  | badLength bytes => "invalid length: found " ++ toString bytes
  | badGroupCount count => "invalid group count: expected 5, found " ++ toString count
  | badGroupLength group expected found =>
      "invalid group length in group " ++ toString group ++ ": expected " ++ toString expected ++
        ", found " ++ toString found

/-- The value of a hexadecimal digit of either case. -/
def hexDigit? (c : Char) : Option (Fin 16) :=
  if '0' ≤ c ∧ c ≤ '9' then some (lastDigit (c.toNat - '0'.toNat))
  else if 'a' ≤ c ∧ c ≤ 'f' then some (lastDigit (c.toNat - 'a'.toNat + 10))
  else if 'A' ≤ c ∧ c ≤ 'F' then some (lastDigit (c.toNat - 'A'.toNat + 10))
  else none

/-- The prefix of the longer grouped form. -/
def urnPrefix : List Char := "urn:uuid:".toList

/-- How the digits of a text are wrapped. -/
inductive Wrapping where
  | bare
  /-- Braces around them. -/
  | braced
  /-- The prefix `urn:uuid:` before them. -/
  | urn
deriving DecidableEq, Repr

/-- Takes the wrapping off a text. -/
def unwrap (cs : List Char) : Wrapping × List Char :=
  if cs.head? = some '\x7b' ∧ cs.tail.getLast? = some '\x7d' then (.braced, cs.tail.dropLast)
  else if (cs.take 9).map Char.toLower = urnPrefix then (.urn, cs.drop 9)
  else (.bare, cs)

/-- The bytes that stand before the digits. -/
def Wrapping.before : Wrapping → Nat
  | bare => 0
  | braced => 1
  | urn => 9

/-- The bytes that stand before and behind the digits. -/
def Wrapping.size : Wrapping → Nat
  | bare => 0
  | braced => 2
  | urn => 9

/-- A text of which the identifier is to be read. -/
structure Candidate where
  /-- The digits and hyphens. -/
  body : List Char
  /-- Whether the digits have to come in groups. -/
  isGrouped : Bool
  /-- What is wrapped around the body and counted with it. -/
  wrapping : Wrapping := .bare

/-- The bytes of a run of 32 digits. -/
def runSize : Nat := 32

/-- The bytes of 32 digits in five groups. -/
def groupedSize : Nat := 36

/-- What a text is taken for: the form that has its length and wrapping, or else whatever it is
wrapped in. -/
def Candidate.ofChars (cs : List Char) : Candidate :=
  let bytes := byteCount cs
  let (wrapping, body) := unwrap cs
  if bytes = runSize then { body := cs, isGrouped := false }
  else if bytes = groupedSize then { body := cs, isGrouped := true }
  else if wrapping ≠ .bare ∧ bytes = groupedSize + wrapping.size then
    { body, isGrouped := true }
  else { body, isGrouped := wrapping != .bare, wrapping }

/-- The first character that is neither a hexadecimal digit nor a hyphen, with its place. -/
def strayFrom (byte : Nat) : List Char → Option (Char × Nat)
  | [] => none
  | c :: cs =>
    if c = '-' ∨ (hexDigit? c).isSome then strayFrom (byte + c.utf8Size) cs else some (c, byte)

/-- The lengths of the groups that hyphens separate. -/
def groupLengths : List Char → List Nat
  | [] => [0]
  | c :: cs =>
    if c = '-' then 0 :: groupLengths cs
    else match groupLengths cs with
      | n :: ns => (n + 1) :: ns
      | [] => [1]

/-- The first group, counted from `i`, that has another length than it should have. -/
def badGroupFrom (i : Nat) : List Nat → List Nat → Option (Nat × Nat × Nat)
  | expected :: es, found :: fs =>
    if expected = found then badGroupFrom (i + 1) es fs else some (i, expected, found)
  | _, _ => none

/-- What is wrong with the groups of a text whose characters are all in place.  Without hyphens
it is a run of digits, unless they have to come in groups.  The last group is counted with what
is wrapped around the text. -/
def Candidate.layoutFault? (c : Candidate) : Option Fault :=
  match groupLengths c.body with
  | [n] => if c.isGrouped then some (.badGroupCount 1) else if n = runSize then none
      else some (.badLength n)
  | lengths =>
    if lengths.length ≠ 5 then some (.badGroupCount lengths.length)
    else (badGroupFrom 0 groupSizes lengths).map fun (i, expected, found) =>
      .badGroupLength i expected (if i = 4 then found + c.wrapping.size else found)

/-- What is wrong with a text. -/
def Candidate.fault? (c : Candidate) : Option Fault :=
  match strayFrom c.wrapping.before c.body with
  | some (found, byte) => some (.strayCharacter found byte)
  | none => c.layoutFault?

/-- Reads an identifier from a text without blanks around it. -/
def ofChars (cs : List Char) : Except Fault Identifier :=
  if cs = [] ∨ 45 < byteCount cs then .error (.badLength (byteCount cs))
  else
    let c := Candidate.ofChars cs
    match c.fault? with
    | some fault => .error fault
    | none =>
      match ofDigits? (c.body.filterMap hexDigit?) with
      | some id => .ok id
      | none => .error (.badLength (byteCount cs))

/-- Reads an identifier as a user types it, with blanks around it if need be. -/
def ofText (text : String) : Except Fault Identifier := ofChars (Text.trim text.toList)

/-- Reads an identifier as a file or a request holds it, with nothing around it. -/
def ofExactText (text : String) : Except Fault Identifier := ofChars text.toList

end PaymentPlans.Identifier
