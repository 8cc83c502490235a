import Prosopography.Collection.IndexedTable
import Prosopography.Collection.SortedMap
import Prosopography.Collection.SortedSet
import Prosopography.Mention.Label
import Prosopography.Person.Conflict
import Prosopography.Person.Id

/-!
# Persons

A person is what one cluster of mentions amounts to. The attribution says to
which person each recorded name belongs; the first assignment of a name stays.
-/

namespace Prosopography

/-- A person in one trial under one recorded name. -/
structure Appearance where
  trial : String
  role : Role
  year : Option Int
  name : String
deriving Repr, DecidableEq

/-- One person, drawn from all the mentions of a cluster. -/
structure Person where
  id : PersonId
  /-- The matching key of the cluster. -/
  key : String
  /-- Recorded names in cluster order. -/
  variants : List String
  standing : Standing
  gender : Gender
  locations : SortedSet String
  appearances : List Appearance
  /-- Role in each trial; the last mention decides. -/
  roles : SortedMap Role
  /-- Outcome of the person's own trial. -/
  outcome : Option String
  witnessToAccused : Bool
  attributes : SortedMap Json

namespace Person

/-- The first occurrences of a list, in order. -/
def firstSeen : List String → List String
  | [] => []
  | a :: rest => a :: firstSeen (rest.filter (· != a))
termination_by l => l.length
decreasing_by
  have := List.length_filter_le (· != a) rest
  simp
  omega

/-- The trials a person appears in, first seen first. -/
def distinctTrials (p : Person) : List String := firstSeen (p.appearances.map (·.trial))

/-- The appearances of a person in one role, in order. -/
def appearancesAs (p : Person) (role : Role) : List Appearance :=
  p.appearances.filter (·.role == role)

/-- Whether an attribute is there and affirmed. -/
def hasFlag (p : Person) (k : String) : Bool := (p.attributes.find? k).any Json.isTruthy

end Person

/-- Recorded names with their persons, in the order of assignment. -/
abbrev Attribution := IndexedTable (α := String × PersonId) (·.1)

namespace Attribution

/-- Assigns a name that has no person yet; the answer is the identifier it already had. -/
def assign (t : Attribution) (name : String) (id : PersonId) : Attribution × Option PersonId :=
  (t.add (name, id), (t.get? name).map (·.2))

/-- The person a recorded name belongs to. -/
def idOf? (t : Attribution) (name : String) : Option PersonId := (t.get? name).map (·.2)

/-- The attribution as an object from names to identifiers. -/
def toJson (t : Attribution) : Json := .obj (t.toList.map fun (name, id) => (name, .str id.text))

end Attribution

end Prosopography
