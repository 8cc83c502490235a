/-!
# Shortest decimals

A positive binary fraction `m · 2 ^ q` stands for all numbers that round to it.
Among the decimals in that interval the ones with fewest digits are chosen, and
of those the nearest. All comparisons are between natural numbers.
-/

namespace Prosopography.Decimal

/-- The value `m · 2 ^ q`. When `narrow` holds the next smaller number of the format is
only half as far away as the next larger one. -/
structure Binary where
  m : Nat
  q : Int
  narrow : Bool
deriving Repr, DecidableEq

/-- The magnitude of a finite double from its bits, `none` for zero. -/
def Binary.ofFields (exponent fraction : Nat) : Option Binary :=
  if exponent = 0 then
    if fraction = 0 then none else some ⟨fraction, -1074, false⟩
  else
    let narrow := decide (fraction = 0) && decide (1 < exponent)
    some ⟨0x10000000000000 + fraction, exponent - 1075, narrow⟩

/-- Compares `a · 2 ^ q` with `d · 10 ^ k`. -/
def compareScaled (a : Nat) (q : Int) (d : Nat) (k : Int) : Ordering :=
  compare (a * Nat.pow 2 q.toNat * Nat.pow 10 (-k).toNat)
    (d * Nat.pow 10 k.toNat * Nat.pow 2 (-q).toNat)

namespace Binary

/-- The interval of reals that round to the value has its ends at these quarters
of a unit; the ends belong to it iff `m` is even. -/
def lowerQuarters (v : Binary) : Nat := 4 * v.m - (if v.narrow then 1 else 2)

/-- The upper end of the interval that reads back as a double, in quarters of its unit. -/
def upperQuarters (v : Binary) : Nat := 4 * v.m + 2

/-- Whether `d · 10 ^ k` rounds to the value. -/
def holds (v : Binary) (d : Nat) (k : Int) : Bool :=
  let low := compareScaled v.lowerQuarters (v.q - 2) d k
  let high := compareScaled v.upperQuarters (v.q - 2) d k
  if v.m % 2 = 0 then low != .gt && high != .lt else low == .lt && high == .gt

/-- `⌊m · 2 ^ q / 10 ^ k⌋`. -/
def floorAt (v : Binary) (k : Int) : Nat :=
  (v.m * Nat.pow 2 v.q.toNat * Nat.pow 10 (-k).toNat) /
    (Nat.pow 10 k.toNat * Nat.pow 2 (-v.q).toNat)

/-- The place of the first digit: the greatest `e` with `10 ^ e ≤ m · 2 ^ q`, starting from
an estimate that is at most a few places too low. -/
def leadingPlace (v : Binary) : Int :=
  let estimate : Int := (((Nat.log2 v.m : Int) + v.q) * 30103).fdiv 100000 - 1
  let rec raise : Nat → Int → Int
    | 0, e => e
    | n + 1, e => if compareScaled v.m v.q 1 (e + 1) != .lt then raise n (e + 1) else e
  raise 4 estimate

end Binary

/-- Which of two equally near decimals is taken. -/
inductive Tie where
  | toEven
  | up
deriving Repr, DecidableEq

namespace Binary

/-- The better of `d` and `d + 1` on the grid of step `10 ^ k`, if one rounds to the value. -/
def pick? (v : Binary) (tie : Tie) (k : Int) : Option Nat :=
  let d := v.floorAt k
  match decide (0 < d) && v.holds d k, v.holds (d + 1) k with
  | true, true =>
    -- the middle between the two candidates, against the value
    match compareScaled (2 * v.m) v.q (2 * d + 1) k with
    | .lt => some d
    | .gt => some (d + 1)
    | .eq => some (if tie = .toEven ∧ d % 2 = 0 then d else d + 1)
  | true, false => some d
  | false, true => some (d + 1)
  | false, false => none

/-- The first grid with a decimal that rounds to the value, the coarsest one first. -/
def pickFrom (v : Binary) (tie : Tie) : Nat → Int → Nat × Int
  | 0, k => (v.floorAt k, k)
  | n + 1, k =>
    match v.pick? tie k with
    | some d => (d, k)
    | none => v.pickFrom tie n (k - 1)

end Binary

/-- `d · 10 ^ k` with the zeros at the end of `d` moved into the exponent. -/
def dropZeros : Nat → Nat → Int → Nat × Int
  | 0, d, k => (d, k)
  | n + 1, d, k => if d % 10 = 0 then dropZeros n (d / 10) (k + 1) else (d, k)

/-- The digits `d` and the exponent `k` of the shortest decimal `d · 10 ^ k`. -/
def Binary.shortest (v : Binary) (tie : Tie) : Nat × Int :=
  let r := v.pickFrom tie 17 v.leadingPlace
  dropZeros 17 r.1 r.2

end Prosopography.Decimal
