import Prosopography.Decimal.Nearest
import Prosopography.Toml.Quoted

/-!
# Numbers in TOML text

Single underscores may separate digits. A whole number has no leading zero and
fits 64 bits; without a sign it may be given in base 16, 8 or 2. A number with a
point or an exponent is the nearest double, and too large a positive one is
refused.
-/

namespace Prosopography.Toml

/-- The digits at the front, without the underscores between them, and the rest. An underscore
counts only between two digits; `started` tells that a digit is just before. -/
def digitRun (p : Char → Bool) : Bool → List Char → List Char × List Char
  | _, [] => ([], [])
  | started, c :: s =>
    if p c then
      let r := digitRun p true s
      (c :: r.1, r.2)
    else if started && c == '_' && s.head?.any p then digitRun p false s
    else ([], c :: s)

/-- At least one digit. -/
def readDigits (p : Char → Bool) : Reader (List Char) := fun s =>
  let r := digitRun p false s
  if r.1.isEmpty then none else some r

/-- The digits of a whole part, which is zero or does not start with zero. -/
def readWhole : Reader (List Char)
  | '0' :: s => some (['0'], s)
  | s => readDigits Char.isDigit s

/-- The number that digits spell in a base, the first digit highest. -/
def valueIn (base : Nat) (ds : List Char) : Nat :=
  ds.foldl (fun n c => n * base + (hexDigit? c).getD 0) 0

/-- The digits after a point, if there is one. -/
def readFraction : Reader (List Char)
  | '.' :: s => readDigits Char.isDigit s
  | s => some ([], s)

/-- A sign, if there is one: whether it is negative. -/
def readSign : List Char → Bool × List Char
  | '-' :: s => (true, s)
  | '+' :: s => (false, s)
  | s => (false, s)

/-- The exponent after its letter, if there is one. -/
def readExponent : Reader (Option Int)
  | c :: s =>
    if c = 'e' ∨ c = 'E' then do
      let (down, s) := readSign s
      let (ds, s) ← readDigits Char.isDigit s
      let n : Int := valueIn 10 ds
      return (some (if down then -n else n), s)
    else some (none, c :: s)
  | [] => some (none, [])

/-- A number under its sign. -/
def signed (negative : Bool) (x : Float) : Float := if negative then -x else x

/-- A whole number of 64 bits. -/
def wholeNumber? (negative : Bool) (n : Nat) : Option Toml :=
  let i : Int := if negative then -n else n
  if -0x8000000000000000 ≤ i ∧ i < 0x8000000000000000 then some (int i) else none

/-- A number in decimal digits, after its sign. -/
def readDecimal (negative : Bool) : Reader Toml := fun s => do
  let (whole, s) ← readWhole s
  let (fraction, s') ← readFraction s
  let (exponent, s') ← readExponent s'
  if fraction.isEmpty ∧ exponent.isNone then
    return (← wholeNumber? negative (valueIn 10 whole), s)
  let x := Decimal.nearest (valueIn 10 (whole ++ fraction)) (exponent.getD 0 - fraction.length)
  if x.isInf ∧ !negative then none else some (float (signed negative x), s')

/-- A whole number in another base, after its mark. -/
def readBase (base : Nat) (p : Char → Bool) : Reader Toml := fun s => do
  let (ds, s) ← readDigits p s
  return (← wholeNumber? false (valueIn base ds), s)

/-- A number after its sign. -/
def readMagnitude (negative : Bool) : Reader Toml
  | 'i' :: 'n' :: 'f' :: s => some (float (signed negative (1.0 / 0.0)), s)
  | 'n' :: 'a' :: 'n' :: s => some (float (0.0 / 0.0), s)
  | s => readDecimal negative s

/-- Reads an integer of any base or a float. -/
def readNumber : Reader Toml
  | '0' :: 'x' :: s => readBase 16 (fun c => (hexDigit? c).isSome) s
  | '0' :: 'o' :: s => readBase 8 (fun c => '0' ≤ c && c ≤ '7') s
  | '0' :: 'b' :: s => readBase 2 (fun c => c == '0' || c == '1') s
  | s =>
    let (negative, s) := readSign s
    readMagnitude negative s

end Prosopography.Toml
