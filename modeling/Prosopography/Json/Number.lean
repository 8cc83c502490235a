import Prosopography.Json.Basic
import Prosopography.Json.ReadError

/-!
# Numbers in JSON text

A whole number that fits 64 bits is kept exactly. Any other number is the
product of its significand, as a double, and a power of ten: one rounding for
the significand, one for the product. Digits that no longer fit a significand
of 64 bits only count towards the exponent, or are dropped after the point.
-/

namespace Prosopography.Json

/-- A fault, and the number of bytes left after its position. -/
structure Stop where
  fault : Fault
  left : Nat

/-- A reader takes bytes from the front and gives back the others. -/
abbrev Reader (α : Type) := List UInt8 → Except Stop (α × List UInt8)

/-- A fault at the position of the next byte. -/
def stopHere {α : Type} (fault : Fault) (rest : List UInt8) : Except Stop α :=
  .error ⟨fault, rest.length⟩

/-- A fault at the position after the next byte, or at the end. -/
def stopNext {α : Type} (fault : Fault) (rest : List UInt8) : Except Stop α :=
  .error ⟨fault, rest.length - 1⟩

/-- The value of a decimal digit. -/
def digit? (b : UInt8) : Option Nat :=
  if 0x30 ≤ b ∧ b ≤ 0x39 then some (b.toNat - 0x30) else none

/-- Whether a digit comes next. -/
def startsDigit (s : List UInt8) : Bool := s.head?.any fun b => (digit? b).isSome

/-- The bytes after the digits at the front. -/
def skipDigits (s : List UInt8) : List UInt8 := s.dropWhile fun b => (digit? b).isSome

/-- Takes digits as long as the value stays at most `limit`: the value, how many digits were
taken, and the rest. -/
def takeDigits (limit : Nat) : Nat → Nat → List UInt8 → Nat × Nat × List UInt8
  | n, count, [] => (n, count, [])
  | n, count, b :: s =>
    match digit? b with
    | some d =>
      if n * 10 + d ≤ limit then takeDigits limit (n * 10 + d) (count + 1) s
      else (n, count, b :: s)
    | none => (n, count, b :: s)

/-- A power of ten as a double. -/
def powerOfTen (n : Nat) : Float := Float.ofScientific 1 false n

/-- `x / 10 ^ e`, in steps of at most 308 places. -/
def divideByPower : Nat → Float → Nat → Float
  | 0, x, _ => x
  | n + 1, x, e =>
    if e ≤ 308 then x / powerOfTen e else divideByPower n (x / powerOfTen 308) (e - 308)

/-- `significand · 10 ^ e`; `none` when it is too large. -/
def scaled? (significand : Nat) (e : Int) : Option Float :=
  let x := Float.ofNat significand
  if e < 0 then some (divideByPower 4 x (-e).toNat)
  else if e ≤ 308 then
    let y := x * powerOfTen e.toNat
    if y.isInf then none else some y
  else if significand = 0 then some x
  else none

/-- A double with a sign of its own, so that zero can be negative. -/
def signed (negative : Bool) (x : Float) : Json := float (if negative then -x else x)

/-- A double from its digits and exponent, unless it is too large. -/
def finishFloat (negative : Bool) (significand : Nat) (e : Int) : Reader Json := fun s =>
  match scaled? significand e with
  | some x => .ok (signed negative x, s)
  | none => stopHere .numberOutOfRange s

/-- The exponent after its letter; `e` is the exponent collected so far. -/
def readExponent (negative : Bool) (significand : Nat) (e : Int) : Reader Json := fun s =>
  let (down, s) :=
    match s with
    | 0x2B :: s => (false, s)
    | 0x2D :: s => (true, s)
    | s => (false, s)
  match s with
  | [] => stopHere .endInValue s
  | b :: rest =>
    match digit? b with
    | none => stopHere .invalidNumber rest
    | some d =>
      let (n, _, rest) := takeDigits 0x7FFFFFFF d 1 rest
      if startsDigit rest then
        if significand ≠ 0 ∧ !down then stopHere .numberOutOfRange (rest.drop 1)
        else .ok (signed negative 0.0, skipDigits rest)
      else finishFloat negative significand (if down then e - n else e + n) rest

/-- Whether an exponent comes next. -/
def startsExponent (s : List UInt8) : Bool := s.head?.any fun b => b == 0x65 || b == 0x45

/-- The rest of a number whose digits have all been seen. -/
def finishDigits (negative : Bool) (significand : Nat) (e : Int) : Reader Json := fun s =>
  if startsExponent s then readExponent negative significand e (s.drop 1)
  else finishFloat negative significand e s

/-- The digits after the point. -/
def readFraction (negative : Bool) (significand : Nat) (e : Int) : Reader Json := fun s =>
  let (n, count, rest) := takeDigits (UInt64.size - 1) significand 0 s
  if startsDigit rest then finishDigits negative n (e - count) (skipDigits rest)
  else if count = 0 then
    if rest.isEmpty then stopNext .endInValue rest else stopNext .invalidNumber rest
  else finishDigits negative n (e - count) rest

/-- A whole number without point and exponent. -/
def wholeNumber (negative : Bool) (n : Nat) : Json :=
  if negative then
    if n = 0 ∨ 0x8000000000000000 < n then float (-(Float.ofNat n)) else int (-n)
  else int n

/-- The rest of a number whose whole part is read and fits 64 bits. -/
def finishWhole (negative : Bool) (n : Nat) : Reader Json := fun s =>
  if s.head? = some 0x2E then readFraction negative n 0 (s.drop 1)
  else if startsExponent s then readExponent negative n 0 (s.drop 1)
  else .ok (wholeNumber negative n, s)

/-- A number after its sign. -/
def readNumber (negative : Bool) : Reader Json
  | [] => stopHere .endInValue []
  | b :: s =>
    match digit? b with
    | none => stopHere .invalidNumber s
    | some 0 => if startsDigit s then stopNext .invalidNumber s else finishWhole negative 0 s
    | some d =>
      let (n, _, rest) := takeDigits (UInt64.size - 1) d 1 s
      if startsDigit rest then
        let after := skipDigits rest
        let e : Int := rest.length - after.length
        if after.head? = some 0x2E then readFraction negative n e (after.drop 1)
        else finishDigits negative n e after
      else finishWhole negative n rest

end Prosopography.Json
