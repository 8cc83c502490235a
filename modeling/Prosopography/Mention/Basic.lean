import Prosopography.Collection.IndexedTable
import Prosopography.Collection.SortedMap
import Prosopography.Mention.Label

/-!
# Mentions

A mention is one recorded form of a person's name together with what the records
say of its bearer. The table of mentions keeps them in the order in which they
were read.
-/

namespace Prosopography

/-- What is recorded under one name. -/
structure Mention where
  /-- The name exactly as recorded. -/
  name : String
  standing : Standing
  location : Option String
  /-- Trials in which the name appears, in recorded order. -/
  trials : List String
  roles : SortedMap Role
  gender : Option Gender
  /-- Whatever else the records say. -/
  attributes : SortedMap Json

namespace Mention

/-- A mention of which only name and standing are known. -/
def of (name : String) (standing : Standing) : Mention where
  name
  standing
  location := none
  trials := []
  roles := .empty
  gender := none
  attributes := .empty

/-- The mention with a place. -/
def withLocation (m : Mention) (place : String) : Mention := { m with location := some place }

/-- Adds an appearance in a trial. -/
def withTrial (m : Mention) (trial : String) (role : Role) : Mention :=
  { m with trials := m.trials ++ [trial], roles := m.roles.insert trial role }

/-- The mention with a gender. -/
def withGender (m : Mention) (g : Gender) : Mention := { m with gender := some g }

/-- The mention with a value for an attribute. -/
def withAttribute (m : Mention) (k : String) (v : Json) : Mention :=
  { m with attributes := m.attributes.insert k v }

/-- A place without blanks around it, unless nothing is left. -/
def placeOf? (location : Option String) : Option String :=
  (location.map Text.trimmed).filter (!·.isEmpty)

/-- The recorded place. -/
def place? (m : Mention) : Option String := placeOf? m.location

/-- The role in a trial, unknown if none is recorded. -/
def roleIn (m : Mention) (trial : String) : Role := (m.roles.find? trial).getD .unknown

end Mention

/-- Mentions in order; a later mention of a name replaces the earlier one in its place. -/
abbrev MentionTable := IndexedTable Mention.name

end Prosopography
