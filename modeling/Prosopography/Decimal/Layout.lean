import Prosopography.Decimal.Shortest

/-!
# Layout of floating-point numbers

A layout fixes how the shortest digits of a double are written: which exponents
are written positionally, whether a whole number keeps its point, and the texts
of the values that are not finite.
-/

namespace Prosopography.Decimal

/-- How doubles are written. -/
structure Layout where
  /-- Exponents of the first digit that are written positionally; `none` means all. -/
  positional : Option (Int × Int)
  /-- Whether a whole number ends in `.0`. -/
  pointZero : Bool
  nan : String
  infinity : String
  tie : Tie

/-- Sign, exponent field and fraction field of a double. -/
def fields (x : Float) : Bool × Nat × Nat :=
  let bits := x.toBits.toNat
  (decide (bits >>> 63 = 1), (bits >>> 52) % 0x800, bits % 0x10000000000000)

namespace Layout

/-- Positional text of `d · 10 ^ k`, where `ds` are the digits of `d`. -/
def positionalText (l : Layout) (ds : List Char) (k : Int) : List Char :=
  if 0 ≤ k then
    ds ++ List.replicate k.toNat '0' ++ (if l.pointZero then ['.', '0'] else [])
  else
    let places := (-k).toNat
    if ds.length ≤ places then
      ['0', '.'] ++ List.replicate (places - ds.length) '0' ++ ds
    else ds.take (ds.length - places) ++ ['.'] ++ ds.drop (ds.length - places)

/-- Text with one digit before the point and the exponent `e` of that digit, signed. -/
def scientificText (ds : List Char) (e : Int) : List Char :=
  let fraction := ds.drop 1
  ds.take 1 ++ (if fraction.isEmpty then [] else '.' :: fraction)
    ++ ['e', if e < 0 then '-' else '+'] ++ Nat.toDigits 10 e.natAbs

/-- A positive double in the notation that its exponent asks for. -/
def magnitudeText (l : Layout) (v : Binary) : List Char :=
  let r := v.shortest l.tie
  let ds := Nat.toDigits 10 r.1
  let e : Int := r.2 + ds.length - 1
  match l.positional with
  | none => l.positionalText ds r.2
  | some (low, high) =>
    if low ≤ e ∧ e ≤ high then l.positionalText ds r.2 else scientificText ds e

/-- A double with its sign, or the word for what is no number. -/
def text (l : Layout) (x : Float) : String :=
  let (negative, exponent, fraction) := fields x
  if exponent = 2047 ∧ fraction ≠ 0 then l.nan
  else
    let sign := if negative then ['-'] else []
    if exponent = 2047 then String.ofList (sign ++ l.infinity.toList)
    else match Binary.ofFields exponent fraction with
      | none => String.ofList (sign ++ ['0'] ++ (if l.pointZero then ['.', '0'] else []))
      | some v => String.ofList (sign ++ l.magnitudeText v)

end Layout

end Prosopography.Decimal
