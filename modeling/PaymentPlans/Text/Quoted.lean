/-
# Quoted text

Messages show a text that a user or a file supplied between double quotes.  The quote, the
backslash and the common controls have short escapes; every other character that cannot be seen
on its own is shown by its number in hexadecimal digits.
-/
import PaymentPlans.Text.Combining
import PaymentPlans.Text.Unprintable

namespace PaymentPlans.Text

/-- A character by its number: `\u`, and the hexadecimal digits in braces. -/
def numberEscape (c : Char) : List Char :=
  '\\' :: 'u' :: '\x7b' :: (Nat.toDigits 16 c.toNat ++ ['\x7d'])

/-- A character as it stands inside a quoted text. -/
def quotedChar (c : Char) : List Char :=
  if c == '"' then ['\\', '"']
  else if c == '\\' then ['\\', '\\']
  else if c == '\n' then ['\\', 'n']
  else if c == '\r' then ['\\', 'r']
  else if c == '\t' then ['\\', 't']
  else if c.toNat == 0 then ['\\', '0']
  else if 0x20 ≤ c.toNat && c.toNat < 0x7F then [c]
  else if isCombining c || isUnprintable c then numberEscape c
  else [c]

/-- A text between double quotes, in a form that shows every character. -/
def quoted (text : String) : String :=
  String.ofList ('"' :: (text.toList.flatMap quotedChar ++ ['"']))

end PaymentPlans.Text
