/-!
# UTF-8

One character at a time is read from the front of a list of bytes. Overlong
forms, surrogates and values past the last code point are refused. Bytes that are
to be shown in any case have what encodes no character replaced.
-/

namespace Prosopography.Text

/-- The six low bits of a continuation byte. -/
def continuation? (b : UInt8) : Option Nat :=
  if 0x80 ≤ b ∧ b < 0xC0 then some (b.toNat - 0x80) else none

/-- The character with a value in the closed range, if it is not a surrogate. -/
def charBetween (lo hi n : Nat) : Option Char :=
  if lo ≤ n ∧ n ≤ hi ∧ n.isValidChar then some (Char.ofNat n) else none

/-- The first character of some bytes and the bytes after it. -/
def decodeChar? : List UInt8 → Option (Char × List UInt8)
  | [] => none
  | a :: s =>
    if a < 0x80 then some (Char.ofNat a.toNat, s)
    else if 0xC0 ≤ a ∧ a < 0xE0 then do
      let b :: s := s | none
      let y ← continuation? b
      return (← charBetween 0x80 0x7FF ((a.toNat - 0xC0) * 64 + y), s)
    else if 0xE0 ≤ a ∧ a < 0xF0 then do
      let b :: c :: s := s | none
      let y ← continuation? b
      let z ← continuation? c
      return (← charBetween 0x800 0xFFFF ((a.toNat - 0xE0) * 4096 + y * 64 + z), s)
    else if 0xF0 ≤ a ∧ a < 0xF8 then do
      let b :: c :: d :: s := s | none
      let y ← continuation? b
      let z ← continuation? c
      let w ← continuation? d
      return (← charBetween 0x10000 0x10FFFF
        ((a.toNat - 0xF0) * 262144 + y * 4096 + z * 64 + w), s)
    else none

/-- The bytes of a text, by which texts are ordered. -/
def bytes (s : String) : List UInt8 := s.toUTF8.data.toList

/-- The text that some bytes encode, if they encode one. -/
def ofBytes? (s : List UInt8) : Option String := String.fromUTF8? ⟨s.toArray⟩

/-- Whether a byte can come second in a character of three or four bytes with a first byte. -/
def isSecond (a b : UInt8) : Bool :=
  if a < 0xE0 ∨ 0xF4 < a then false
  else if a = 0xE0 then 0xA0 ≤ b ∧ b < 0xC0
  else if a = 0xED then 0x80 ≤ b ∧ b < 0xA0
  else if a = 0xF0 then 0x90 ≤ b ∧ b < 0xC0
  else if a = 0xF4 then 0x80 ≤ b ∧ b < 0x90
  else 0x80 ≤ b ∧ b < 0xC0

/-- Of the bytes after a first byte whose character is not completed, those that began it. -/
def begunAfter (a : UInt8) : List UInt8 → Nat
  | [] => 0
  | [b] => if isSecond a b then 1 else 0
  | b :: c :: _ =>
    if !isSecond a b then 0 else if 0xF0 ≤ a ∧ (continuation? c).isSome then 2 else 1

/-- The characters of some bytes after as many as are passed over. Each part that begins a
character and does not complete it stands as one replacement character. -/
def mendedFrom : Nat → List UInt8 → List Char
  | _, [] => []
  | passed + 1, _ :: s => mendedFrom passed s
  | 0, a :: s =>
    match decodeChar? (a :: s) with
    | some (c, _) => c :: mendedFrom (c.utf8Size - 1) s
    | none => '\ufffd' :: mendedFrom (begunAfter a s) s

/-- Some bytes as a text, whatever they are. -/
def mended (s : List UInt8) : String := String.ofList (mendedFrom 0 s)

end Prosopography.Text
