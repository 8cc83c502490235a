import Prosopography.Toml.Line

/-!
# Strings in TOML text

A string stands between double quotes, where a backslash starts an escape, or
between apostrophes, where it does not. Three quotes open a string over several
lines; a line end right after them is not part of it, and every other one counts
as a line feed.
-/

namespace Prosopography.Toml

/-- The value of a hexadecimal digit. -/
def hexDigit? (c : Char) : Option Nat :=
  if '0' ≤ c ∧ c ≤ '9' then some (c.toNat - 0x30)
  else if 'A' ≤ c ∧ c ≤ 'F' then some (c.toNat - 0x37)
  else if 'a' ≤ c ∧ c ≤ 'f' then some (c.toNat - 0x57)
  else none

/-- The value of exactly `n` hexadecimal digits after those in `acc`. -/
def readHex : Nat → Nat → Reader Nat
  | 0, acc, s => some (acc, s)
  | _ + 1, _, [] => none
  | n + 1, acc, c :: s => (hexDigit? c).bind fun d => readHex n (acc * 16 + d) s

/-- The character whose code point has `n` hexadecimal digits. -/
def readCodePoint (n : Nat) : Reader Char := fun s => do
  let (code, s) ← readHex n 0 s
  if code.isValidChar then some (Char.ofNat code, s) else none

/-- The character of an escape, after its backslash. -/
def readEscape : Reader Char
  | 'b' :: s => some ('\x08', s)
  | 't' :: s => some ('\t', s)
  | 'n' :: s => some ('\n', s)
  | 'f' :: s => some ('\x0c', s)
  | 'r' :: s => some ('\r', s)
  | '"' :: s => some ('"', s)
  | '\\' :: s => some ('\\', s)
  | 'u' :: s => readCodePoint 4 s
  | 'U' :: s => readCodePoint 8 s
  | _ => none

/-- Whether a backslash between such quotes starts an escape. -/
def escapesIn (quote : Char) : Bool := quote == '"'

/-- The characters up to the closing quote on the same line, latest first in `out`. -/
def readLineString (quote : Char) : Nat → List Char → Reader String
  | 0, _, _ => none
  | _ + 1, _, [] => none
  | n + 1, out, c :: s =>
    if c = quote then some (String.ofList out.reverse, s)
    else if c = '\\' ∧ escapesIn quote then do
      let (e, s) ← readEscape s
      readLineString quote n (e :: out) s
    else if isText c then readLineString quote n (c :: out) s
    else none

/-- The characters up to three closing quotes. Up to two quotes may stand anywhere in the string,
also before the closing ones. A backslash at the end of a line joins it to the next text. -/
def readTextBlock (quote : Char) : Nat → List Char → Reader String
  | 0, _, _ => none
  | _ + 1, _, [] => none
  | n + 1, out, c :: s =>
    if c = quote then
      let run := (s.takeWhile (· == quote)).length + 1
      let s := s.dropWhile (· == quote)
      if run < 3 then readTextBlock quote n (List.replicate run quote ++ out) s
      else if run < 6 then
        some (String.ofList (out.reverse ++ List.replicate (run - 3) quote), s)
      else none
    else if c = '\\' ∧ escapesIn quote then
      match newline? (skipBlanks s) with
      | some s => readTextBlock quote n out (skipBlankLines s)
      | none => do
        let (e, s) ← readEscape s
        readTextBlock quote n (e :: out) s
    else
      match newline? (c :: s) with
      | some s => readTextBlock quote n ('\n' :: out) s
      | none => if isText c then readTextBlock quote n (c :: out) s else none

/-- A string on one line, after its opening quote. -/
def readLineStringOf (quote : Char) : Reader String := fun s =>
  readLineString quote (s.length + 1) [] s

/-- A string of either kind, after its first quote. -/
def readStringOf (quote : Char) : Reader String
  | c :: d :: s =>
    if c = quote ∧ d = quote then
      let s := (newline? s).getD s
      readTextBlock quote (s.length + 1) [] s
    else readLineStringOf quote (c :: d :: s)
  | s => readLineStringOf quote s

end Prosopography.Toml
