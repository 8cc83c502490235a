import Prosopography.Person.Basic

/-!
# Persons as records

How a person is written as a JSON record, and how such a record is read back.
-/

namespace Prosopography

open Json

namespace Appearance

/-- The fields of an appearance read so far. -/
structure Draft where
  trial : Option String
  role : Option Role
  year : Option (Option Int)
  name : Option String

/-- The record of an appearance, which has all of its fields. -/
def recordKind : Shape.RecordKind Draft Appearance where
  title := "TrialAppearance"
  fields := [
    Shape.required "trial_id" Shape.string fun d a => { d with trial := a },
    Shape.required "role" Role.shape fun d a => { d with role := a },
    Shape.required "year" (Shape.optional Shape.year) fun d a => { d with year := a },
    Shape.required "raw_name" Shape.string fun d a => { d with name := a }]
  strict := false
  start := ⟨none, none, none, none⟩
  build := fun d => do
    let trial ← Shape.present "trial_id" d.trial
    let role ← Shape.present "role" d.role
    let name ← Shape.present "raw_name" d.name
    return { trial, role, year := d.year.getD none, name }

/-- An appearance as it is saved. -/
def toJson (a : Appearance) : Json :=
  obj [("trial_id", str a.trial), ("role", str a.role.label), ("year", ofOption int a.year),
    ("raw_name", str a.name)]

end Appearance

namespace Person

/-- The fields of a person read so far. -/
structure Draft where
  id : Option String
  key : Option String
  variants : Option (List String)
  standing : Option Standing
  gender : Option Gender
  locations : Option (List String)
  appearances : Option (List Appearance)
  roles : Option (SortedMap Role)
  outcome : Option (Option String)
  witnessToAccused : Option Bool
  attributes : Option (SortedMap Json)

/-- The record of a person, which has all of its fields. -/
def recordKind : Shape.RecordKind Draft Person where
  title := "CanonicalEntity"
  fields := [
    Shape.required "canonical_id" Shape.string fun d a => { d with id := a },
    Shape.required "canonical_name" Shape.string fun d a => { d with key := a },
    Shape.required "variants" (Shape.list Shape.string) fun d a => { d with variants := a },
    Shape.required "entity_type" Standing.shape fun d a => { d with standing := a },
    Shape.required "gender" Gender.shape fun d a => { d with gender := a },
    Shape.required "locations" (Shape.list Shape.string) fun d a => { d with locations := a },
    Shape.required "trial_appearances" (Shape.list Appearance.recordKind.shape)
      fun d a => { d with appearances := a },
    Shape.required "roles_in_trials" (Shape.map Role.shape) fun d a => { d with roles := a },
    Shape.required "outcome" (Shape.optional Shape.string) fun d a => { d with outcome := a },
    Shape.required "witness_to_accused" Shape.boolean
      fun d a => { d with witnessToAccused := a },
    Shape.defaulted "attributes" (Shape.map Shape.any) fun d a => { d with attributes := a }]
  strict := false
  start := ⟨none, none, none, none, none, none, none, none, none, none, none⟩
  build := fun d => do
    let id ← Shape.present "canonical_id" d.id
    let key ← Shape.present "canonical_name" d.key
    let variants ← Shape.present "variants" d.variants
    let standing ← Shape.present "entity_type" d.standing
    let gender ← Shape.present "gender" d.gender
    let locations ← Shape.present "locations" d.locations
    let appearances ← Shape.present "trial_appearances" d.appearances
    let roles ← Shape.present "roles_in_trials" d.roles
    let witnessToAccused ← Shape.present "witness_to_accused" d.witnessToAccused
    return {
      id := ⟨id⟩
      key, variants, standing, gender
      locations := .ofList locations
      appearances, roles
      outcome := d.outcome.getD none
      witnessToAccused
      attributes := d.attributes.getD .empty }

/-- Reads a saved person. -/
def shape : Shape Person := recordKind.shape

/-- A person as it is saved. -/
def toJson (p : Person) : Json :=
  obj [("canonical_id", str p.id.text), ("canonical_name", str p.key),
    ("variants", strs p.variants), ("entity_type", str p.standing.label),
    ("gender", str p.gender.label), ("locations", strs p.locations.toList),
    ("trial_appearances", arr (p.appearances.map Appearance.toJson)),
    ("roles_in_trials", obj (p.roles.toList.map fun (t, r) => (t, str r.label))),
    ("outcome", ofOption str p.outcome), ("witness_to_accused", bool p.witnessToAccused),
    ("attributes", obj p.attributes.toList)]

end Person

end Prosopography
