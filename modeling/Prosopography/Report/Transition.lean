import Prosopography.Person.Basic

/-!
# From witness to accused

A transition is a person who is known as a witness and as an accused. It is
reported with the earliest dated appearance in either role; a person who was
accused first is reported with a negative number of years.
-/

namespace Prosopography

/-- The way of a person from the witness stand to the dock. -/
structure Transition where
  id : PersonId
  key : String
  witnessTrial : String
  witnessYear : Int
  accusedTrial : String
  accusedYear : Int
  yearsBetween : Int
  /-- Dated appearances as a witness. -/
  witnessAppearances : Nat
  outcome : Option String
deriving Repr, DecidableEq

namespace Transition

/-- Dated appearances with their years. -/
def dated (appearances : List Appearance) : List (Appearance × Int) :=
  appearances.filterMap fun a => a.year.map fun y => (a, y)

/-- The earliest of some dated appearances; of one year the first is taken. -/
def earliest : List (Appearance × Int) → Option (Appearance × Int)
  | [] => none
  | e :: rest =>
    some (rest.foldl (fun best e => if e.2 < best.2 then e else best) e)

/-- From one year to another, as a signed number of 32 bits. -/
def yearSpan (first last : Int) : Int := (last - first).bmod UInt32.size

/-- The transition of a person who is flagged and has a dated appearance in either role. -/
def ofPerson (p : Person) : Option Transition :=
  if p.witnessToAccused then
    let asWitness := dated (p.appearancesAs .witness)
    match earliest asWitness, earliest (dated (p.appearancesAs .accused)) with
    | some (w, wy), some (a, ay) => some {
        id := p.id
        key := p.key
        witnessTrial := w.trial
        witnessYear := wy
        accusedTrial := a.trial
        accusedYear := ay
        yearsBetween := yearSpan wy ay
        witnessAppearances := asWitness.length
        outcome := p.outcome }
    | _, _ => none
  else none

/-- The rows of the persons that have one, in the order of the persons. -/
def ofPersons (persons : List Person) : List Transition := persons.filterMap ofPerson

/-- A row as it is saved. -/
def toJson (t : Transition) : Json :=
  .obj [("canonical_id", .str t.id.text), ("canonical_name", .str t.key),
    ("first_witness_trial", .str t.witnessTrial), ("first_witness_year", .int t.witnessYear),
    ("first_accused_trial", .str t.accusedTrial), ("first_accused_year", .int t.accusedYear),
    ("years_between", .int t.yearsBetween),
    ("total_witness_appearances", .ofNat t.witnessAppearances),
    ("outcome", .ofOption .str t.outcome)]

end Transition

end Prosopography
