import Prosopography.Text.Legible

/-!
# Quoted text in messages

A message shows a text between double quotes. Quotes, backslashes and line
controls are escaped by a letter, other characters that are not legible by
their code point in lowercase hexadecimal.
-/

namespace Prosopography.Text

/-- Digits of `n` in base 16, most significant first. -/
def hexDigits (n : Nat) : List Char := Nat.toDigits 16 n

/-- A character as it stands between quotes. -/
def quotedChar (c : Char) : List Char :=
  if c = '"' then ['\\', '"']
  else if c = '\\' then ['\\', '\\']
  else if c = '\t' then ['\\', 't']
  else if c = '\r' then ['\\', 'r']
  else if c = '\n' then ['\\', 'n']
  else if c = '\x00' then ['\\', '0']
  else if isLegible c then [c]
  else ['\\', 'u', '\x7b'] ++ hexDigits c.toNat ++ ['\x7d']

/-- A text between quotes, in which all that does not print is escaped. -/
def quoted (s : String) : String :=
  String.ofList (['"'] ++ s.toList.flatMap quotedChar ++ ['"'])

end Prosopography.Text
