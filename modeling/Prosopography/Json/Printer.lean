import Prosopography.Json.Basic
import Prosopography.Decimal.Layout

/-!
# JSON text

Values are written on one line, or over several lines with two spaces for each
level. Only quotes, backslashes and control characters are escaped.
-/

namespace Prosopography.Json

/-- Numbers are positional for exponents from -5 to 15, keep a point, and a value
that is not finite is null. -/
def numberLayout : Decimal.Layout where
  positional := some (-5, 15)
  pointZero := true
  nan := "null"
  infinity := "null"
  tie := .toEven

/-- A double as JSON has it; what is no number is written as null. -/
def floatText (x : Float) : String :=
  if x.isFinite then numberLayout.text x else "null"

/-- A lower-case hexadecimal digit. -/
def lowerHex (n : Nat) : Char := Nat.digitChar n

/-- A character as it stands between quotes. -/
def escapedChar (c : Char) : String :=
  if c = '"' then "\\\""
  else if c = '\\' then "\\\\"
  else if c = '\x08' then "\\b"
  else if c = '\x0c' then "\\f"
  else if c = '\n' then "\\n"
  else if c = '\r' then "\\r"
  else if c = '\t' then "\\t"
  else if c.toNat < 0x20 then
    String.ofList ['\\', 'u', '0', '0', lowerHex (c.toNat / 16), lowerHex (c.toNat % 16)]
  else c.toString

/-- Writes a string after `out`. -/
def writeString (out s : String) : String :=
  s.foldl (fun out c => out ++ escapedChar c) (out ++ "\"") ++ "\""

/-- The text of a value that holds no other. -/
def writeScalar (out : String) : Json → String
  | null => out ++ "null"
  | bool b => out ++ (if b then "true" else "false")
  | int n => out ++ toString n
  | float x => out ++ floatText x
  | str s => writeString out s
  | _ => out

mutual

/-- Writes a value after `out` without any space. -/
def writeCompact (out : String) : Json → String
  | arr items => writeCompactItems (out ++ "[") items ++ "]"
  | obj fields => writeCompactFields (out ++ "\x7b") fields ++ "\x7d"
  | v => writeScalar out v

/-- The items of an array, with commas between them. -/
def writeCompactItems (out : String) : List Json → String
  | [] => out
  | [v] => writeCompact out v
  | v :: w :: rest => writeCompactItems (writeCompact out v ++ ",") (w :: rest)

/-- The fields of an object, with commas between them. -/
def writeCompactFields (out : String) : List (String × Json) → String
  | [] => out
  | [(k, v)] => writeCompact (writeString out k ++ ":") v
  | (k, v) :: f :: rest =>
    writeCompactFields (writeCompact (writeString out k ++ ":") v ++ ",") (f :: rest)

end

/-- The text of a value without any space. -/
def compact (v : Json) : String := writeCompact "" v

/-- The start of a line at a level. -/
def indent (level : Nat) : String := String.ofList ('\n' :: List.replicate (2 * level) ' ')

mutual

/-- Writes a value after `out` over several lines; empty arrays and objects stay on one. -/
def writePretty (level : Nat) (out : String) : Json → String
  | arr [] => out ++ "[]"
  | arr (v :: rest) => writePrettyItems (level + 1) (out ++ "[") (v :: rest) ++ indent level ++ "]"
  | obj [] => out ++ "\x7b\x7d"
  | obj (f :: rest) =>
    writePrettyFields (level + 1) (out ++ "\x7b") (f :: rest) ++ indent level ++ "\x7d"
  | v => writeScalar out v

/-- The items of an array, each on a line of its own. -/
def writePrettyItems (level : Nat) (out : String) : List Json → String
  | [] => out
  | [v] => writePretty level (out ++ indent level) v
  | v :: w :: rest =>
    writePrettyItems level (writePretty level (out ++ indent level) v ++ ",") (w :: rest)

/-- The fields of an object, each on a line of its own. -/
def writePrettyFields (level : Nat) (out : String) : List (String × Json) → String
  | [] => out
  | [(k, v)] => writePretty level (writeString (out ++ indent level) k ++ ": ") v
  | (k, v) :: f :: rest =>
    writePrettyFields level
      (writePretty level (writeString (out ++ indent level) k ++ ": ") v ++ ",") (f :: rest)

end

/-- The text of a value over several lines, with two spaces for each level. -/
def pretty (v : Json) : String := writePretty 0 "" v

end Prosopography.Json
