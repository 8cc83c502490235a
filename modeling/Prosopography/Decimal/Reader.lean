import Prosopography.Decimal.Nearest

/-!
# Reading doubles

A double is given in decimal digits with an optional sign, point and exponent, or
by the names of infinity and of the value that is no number, in any case.
-/

namespace Prosopography.Decimal

/-- The number that decimal digits stand for. -/
def digitsValue (ds : List Char) : Nat := ds.foldl (fun n c => n * 10 + (c.toNat - 0x30)) 0

/-- Whether a sign is negative, and what follows it. -/
def splitSign : List Char → Bool × List Char
  | '-' :: s => (true, s)
  | '+' :: s => (false, s)
  | s => (false, s)

/-- The value of an exponent, which is the whole rest of a text. -/
def exponent? : List Char → Option Int
  | [] => some 0
  | c :: s =>
    if c = 'e' ∨ c = 'E' then
      let (negative, ds) := splitSign s
      if ds.isEmpty ∨ !ds.all Char.isDigit then none
      else some (if negative then -(digitsValue ds : Int) else digitsValue ds)
    else none

/-- The digits after a point, if there is one, and what follows them. -/
def splitFraction : List Char → List Char × List Char
  | '.' :: s => (s.takeWhile Char.isDigit, s.dropWhile Char.isDigit)
  | s => ([], s)

/-- The value of a text without sign. -/
def magnitude? (s : List Char) : Option Float :=
  let name := String.ofList (s.map Char.toLower)
  if name = "inf" ∨ name = "infinity" then some (1.0 / 0.0)
  else if name = "nan" then some (0.0 / 0.0)
  else
    let whole := s.takeWhile Char.isDigit
    let (fraction, rest) := splitFraction (s.dropWhile Char.isDigit)
    if whole.isEmpty ∧ fraction.isEmpty then none
    else (exponent? rest).map fun e =>
      nearest (digitsValue (whole ++ fraction)) (e - fraction.length)

/-- The double that a text stands for, with its sign. -/
def ofText? (text : String) : Option Float :=
  let (negative, s) := splitSign text.toList
  (magnitude? s).map fun x => if negative then -x else x

/-- A whole number that fits 64 bits, with an optional plus. -/
def countOfText? (text : String) : Option Nat :=
  let ds :=
    match text.toList with
    | '+' :: s => s
    | s => s
  if ds.isEmpty ∨ !ds.all Char.isDigit then none
  else
    let n := digitsValue ds
    if n < UInt64.size then some n else none

end Prosopography.Decimal
