/-!
# Nearest doubles

A quotient of natural numbers is taken as the double nearest to it; of two equally
near ones the one with an even significand is taken. The quotient is rounded once, in
natural numbers, so no digit is lost on the way, be it that of a decimal `d · 10 ^ e`
or of a score.
-/

namespace Prosopography.Decimal

/-- The natural number nearest to `a / b`; a half goes to the even neighbour. -/
def roundQuotient (a b : Nat) : Nat :=
  if 2 * (a % b) < b then a / b
  else if b < 2 * (a % b) then a / b + 1
  else a / b + a / b % 2

/-- The greatest `e` with `2 ^ e ≤ a / b`, for positive `a` and `b`. -/
def binaryPlace (a b : Nat) : Int :=
  let e : Int := (Nat.log2 a : Int) - Nat.log2 b
  if a * Nat.pow 2 (-e).toNat < b * Nat.pow 2 e.toNat then e - 1 else e

/-- The bits of positive infinity. -/
def infinityBits : Nat := 0x7FF0000000000000

/-- The bits of the double nearest to `a / b`, of which none is larger than those of infinity. -/
def nearestBits (a b : Nat) : Nat :=
  let q := max (binaryPlace a b - 52) (-1074)
  let n := roundQuotient (a * Nat.pow 2 (-q).toNat) (b * Nat.pow 2 q.toNat)
  if n < 0x10000000000000 then n
  else min ((q + 1074).toNat * 0x10000000000000 + n) infinityBits

/-- The double nearest to `a / b`. -/
def nearestQuotient (a b : Nat) : Float := Float.ofBits (nearestBits a b).toUInt64

/-- The number of decimal digits. -/
def digitCount (n : Nat) : Nat := (Nat.toDigits 10 n).length

/-- The double nearest to `d · 10 ^ e`. Exponents far outside the range of doubles are decided
without their powers. -/
def nearest (d : Nat) (e : Int) : Float :=
  let place := e + digitCount d
  if d = 0 ∨ place < -400 then 0.0
  else if 400 < place then Float.ofBits infinityBits.toUInt64
  else nearestQuotient (d * Nat.pow 10 e.toNat) (Nat.pow 10 (-e).toNat)

end Prosopography.Decimal
