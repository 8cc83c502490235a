/-!
# Identifiers of persons

An identifier is a stem followed by a sequence number, padded with zeros to a
least width. Widths have a limit, past which no identifier is given out.
-/

namespace Prosopography

/-- The identifier of a person, as it is written into every table. -/
structure PersonId where
  text : String
deriving Repr, DecidableEq

namespace PersonId

/-- No number is padded further. -/
def maxWidth : Nat := 65535

/-- The digits of `n`, with zeros in front up to `width`. -/
def padded (width n : Nat) : List Char :=
  let ds := Nat.toDigits 10 n
  List.replicate (width - ds.length) '0' ++ ds

/-- The identifier with a sequence number. -/
def sequential (stem : String) (width n : Nat) : PersonId :=
  ⟨String.ofList (stem.toList ++ padded width n)⟩

/-- The identifier with a sequence number, if the width keeps to its limit. -/
def sequential? (stem : String) (width n : Nat) : Option PersonId :=
  if width ≤ maxWidth then some (sequential stem width n) else none

end PersonId

end Prosopography
