import Prosopography.Person.OfCluster

/-!
# Super-witnesses

A super-witness gave evidence in many different trials. Super-witnesses are
listed by the number of their trials, most trials first.
-/

namespace Prosopography

/-- The attribute of witnesses who voiced a suspicion of their own. -/
def personalSuspicionFlag : String := "personal_suspicion"

/-- A person who has been a witness in many trials. -/
structure SuperWitness where
  id : PersonId
  key : String
  /-- Distinct trials as a witness, first seen first. -/
  trials : List String
  /-- Distinct years of appearances as a witness. -/
  years : SortedSet Int
  gender : Gender
  locations : List String
  becameAccused : Bool
  personalSuspicion : Bool

namespace SuperWitness

/-- The trials in which a person was a witness, first seen first. -/
def witnessTrials (p : Person) : List String :=
  Person.firstSeen ((p.appearancesAs .witness).map (·.trial))

/-- How many trials the row counts. -/
def count (w : SuperWitness) : Nat := w.trials.length

/-- The row of a person, whether or not the trials are many. -/
def ofPerson (p : Person) : SuperWitness where
  id := p.id
  key := p.key
  trials := witnessTrials p
  years := .ofList ((p.appearancesAs .witness).filterMap (·.year))
  gender := p.gender
  locations := p.locations.toList
  becameAccused := p.hasFlag witnessToAccusedFlag
  personalSuspicion := p.hasFlag personalSuspicionFlag

/-- The persons with at least `least` distinct trials as a witness; of equal numbers the
order of persons is kept. -/
def ofPersons (least : Nat) (persons : List Person) : List SuperWitness :=
  ((persons.filter fun p => least ≤ (witnessTrials p).length).map ofPerson).mergeSort
    fun a b => b.count ≤ a.count

/-- A row as it is saved. -/
def toJson (w : SuperWitness) : Json :=
  .obj [("canonical_id", .str w.id.text), ("canonical_name", .str w.key),
    ("num_trials", .ofNat w.count), ("trial_ids", .strs w.trials),
    ("years_active", .arr (w.years.toList.map .int)), ("gender", .str w.gender.label),
    ("locations", .strs w.locations), ("became_accused", .bool w.becameAccused),
    ("personal_suspicion", .bool w.personalSuspicion)]

end SuperWitness

end Prosopography
