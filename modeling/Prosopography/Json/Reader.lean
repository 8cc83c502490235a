import Prosopography.Collection.IndexedTable
import Prosopography.Json.Number
import Prosopography.Text.Utf8

/-!
# Reading JSON text

A text is one value with blanks around it, nested less than 128 levels deep. A
key that is repeated in one object keeps its first place and takes its last
value.
-/

namespace Prosopography.Json

/-- The bytes after the blanks at the front. -/
def skipBlanks (s : List UInt8) : List UInt8 :=
  s.dropWhile fun b => b == 0x20 || b == 0x0A || b == 0x09 || b == 0x0D

/-- The value of a hexadecimal digit in either case. -/
def hexValue? (b : UInt8) : Option Nat :=
  if 0x30 ≤ b ∧ b ≤ 0x39 then some (b.toNat - 0x30)
  else if 0x41 ≤ b ∧ b ≤ 0x46 then some (b.toNat - 0x37)
  else if 0x61 ≤ b ∧ b ≤ 0x66 then some (b.toNat - 0x57)
  else none

/-- Four hexadecimal digits. -/
def readHex : Reader Nat
  | a :: b :: c :: d :: s =>
    match hexValue? a, hexValue? b, hexValue? c, hexValue? d with
    | some w, some x, some y, some z => .ok (w * 4096 + x * 256 + y * 16 + z, s)
    | _, _, _, _ => stopHere .invalidEscape s
  | _ => stopHere .endInString []

/-- The character of an escape in code units: a pair of surrogates counts as one. -/
def readUnicodeEscape : Reader Char := fun s => do
  let (n, s) ← readHex s
  if 0xDC00 ≤ n ∧ n ≤ 0xDFFF then stopHere .loneSurrogate s
  else if n < 0xD800 ∨ 0xDBFF < n then return (Char.ofNat n, s)
  else
    match s with
    | [] => stopHere .endInString s
    | b :: s =>
      if b ≠ 0x5C then stopHere .endOfEscape s
      else match s with
        | [] => stopHere .endInString s
        | b :: s =>
          if b ≠ 0x75 then stopHere .endOfEscape s
          else
            let (m, s) ← readHex s
            if m < 0xDC00 ∨ 0xDFFF < m then stopHere .loneSurrogate s
            else return (Char.ofNat ((n - 0xD800) * 1024 + (m - 0xDC00) + 0x10000), s)

/-- The character of an escape, after its backslash. -/
def readEscape : Reader Char
  | [] => stopHere .endInString []
  | b :: s =>
    if b = 0x22 then .ok ('"', s)
    else if b = 0x5C then .ok ('\\', s)
    else if b = 0x2F then .ok ('/', s)
    else if b = 0x62 then .ok ('\x08', s)
    else if b = 0x66 then .ok ('\x0c', s)
    else if b = 0x6E then .ok ('\n', s)
    else if b = 0x72 then .ok ('\r', s)
    else if b = 0x74 then .ok ('\t', s)
    else if b = 0x75 then readUnicodeEscape s
    else stopHere .invalidEscape s

/-- The characters of a string up to its closing quote, latest first in `out`. Bytes that
encode no character are a fault once the quote is found; from the first of them on, `bad` counts
the bytes of the string's value, and the fault stands so many bytes before the end of the quote. -/
def readStringFrom : Nat → List Char → Option Nat → Reader String
  | 0, _, _, s => stopHere .endInString s
  | _ + 1, _, _, [] => stopHere .endInString []
  | n + 1, out, bad, b :: s =>
    if b = 0x22 then
      match bad with
      | some count => .error ⟨.invalidUnicode, s.length + count⟩
      | none => .ok (String.ofList out.reverse, s)
    else if b = 0x5C then
      match readEscape s with
      | .ok (c, s) => readStringFrom n (c :: out) (bad.map (· + c.utf8Size)) s
      | .error e => .error e
    else if b < 0x20 then stopHere .controlCharacter s
    else
      match Text.decodeChar? (b :: s) with
      | some (c, s) => readStringFrom n (c :: out) (bad.map (· + c.utf8Size)) s
      | none => readStringFrom n out (some (bad.getD 0 + 1)) s

/-- A string of less than `n` bytes, after its opening quote. -/
def readString (n : Nat) : Reader String := readStringFrom n [] none

/-- A value that is written as a fixed word. -/
def readLiteral (value : Json) : List UInt8 → Reader Json
  | [], s => .ok (value, s)
  | _ :: _, [] => stopHere .endInValue []
  | b :: word, c :: s => if b = c then readLiteral value word s else stopHere .expectedLiteral s

/-- The elements of an array after the first bracket, each read by `item`. -/
def readItems (item : Reader Json) : Nat → List Json → Reader Json
  | 0, _, s => stopNext .endInList s
  | n + 1, out, s =>
    let more (s : List UInt8) : Except Stop (Json × List UInt8) := do
      let (v, s) ← item s
      readItems item n (v :: out) s
    match skipBlanks s with
    | [] => stopNext .endInList []
    | b :: s =>
      if b = 0x5D then .ok (arr out.reverse, s)
      else if out.isEmpty then more (b :: s)
      else if b ≠ 0x2C then stopNext .expectedCommaOrBracket (b :: s)
      else
        match skipBlanks s with
        | [] => stopNext .endInValue []
        | c :: s => if c = 0x5D then stopNext .trailingComma (c :: s) else more (c :: s)

/-- The fields of an object while it is read; a later value of a key takes its place. -/
abbrev Fields := IndexedTable (α := String × Json) (·.1)

/-- The fields of an object after the first brace, each value read by `item`. -/
def readFields (item : Reader Json) : Nat → Fields → Reader Json
  | 0, _, s => stopNext .endInObject s
  | n + 1, out, s =>
    let more (s : List UInt8) : Except Stop (Json × List UInt8) := do
      let (k, s) ← readString (n + 1) s
      match skipBlanks s with
      | [] => stopNext .endInObject []
      | b :: s =>
        if b ≠ 0x3A then stopNext .expectedColon (b :: s)
        else
          let (v, s) ← item s
          readFields item n (out.put (k, v)) s
    match skipBlanks s with
    | [] => stopNext .endInObject []
    | b :: s =>
      if b = 0x7D then .ok (obj out.toList, s)
      else if out.isEmpty then
        if b = 0x22 then more s else stopNext .keyNotString (b :: s)
      else if b ≠ 0x2C then stopNext .expectedCommaOrBrace (b :: s)
      else
        match skipBlanks s with
        | [] => stopNext .endInValue []
        | c :: s =>
          if c = 0x22 then more s
          else if c = 0x7D then stopNext .trailingComma (c :: s)
          else stopNext .keyNotString (c :: s)

/-- One value in a text of less than `n` bytes; arrays and objects may still be nested `levels`
deep. -/
def readValue (n : Nat) : Nat → Reader Json
  | levels, s =>
    match skipBlanks s with
    | [] => stopNext .endInValue []
    | b :: s =>
      if b = 0x6E then readLiteral null [0x75, 0x6C, 0x6C] s
      else if b = 0x74 then readLiteral (bool true) [0x72, 0x75, 0x65] s
      else if b = 0x66 then readLiteral (bool false) [0x61, 0x6C, 0x73, 0x65] s
      else if b = 0x2D then readNumber true s
      else if (digit? b).isSome then readNumber false (b :: s)
      else if b = 0x22 then (readString n s).map fun (t, s) => (str t, s)
      else if b = 0x5B ∨ b = 0x7B then
        match levels with
        | 0 => stopNext .tooDeep (b :: s)
        | levels + 1 =>
          if b = 0x5B then readItems (readValue n levels) n [] s
          else readFields (readValue n levels) n .empty s
      else stopNext .expectedValue (b :: s)

/-- Arrays and objects are nested at most this deep. -/
def maxDepth : Nat := 127

/-- The value of a whole text, with nothing but blanks around it. -/
def readText (s : List UInt8) : Except Stop Json := do
  let (v, s) ← readValue (s.length + 1) maxDepth s
  match skipBlanks s with
  | [] => return v
  | s => stopNext .trailingCharacters s

/-- The value of a text given by its bytes. -/
def ofBytes (bytes : ByteArray) : Except ReadError Json :=
  let s := bytes.toList
  (readText s).mapError fun stop => .after s (s.length - stop.left) stop.fault

/-- The value of a text, or what is wrong with it. -/
def ofString (s : String) : Except ReadError Json := ofBytes s.toUTF8

end Prosopography.Json
