import Prosopography.Mention.Basic

/-!
# Mentions as records

How a mention is written as a JSON record, and how a record with the name it
belongs to is read back.
-/

namespace Prosopography.Mention

open Json

/-- The fields of a record read so far. -/
structure Draft where
  standing : Option Standing
  trials : Option (List String)
  location : Option (Option String)
  roles : Option (SortedMap Role)
  gender : Option (Option Gender)
  attributes : Option (SortedMap Json)

/-- The record of a mention, under the name that it has in the table. -/
def recordKind (name : String) : Shape.RecordKind Draft Mention where
  title := "RawEntityRecord"
  fields := [
    Shape.required "entity_type" Standing.shape fun d a => { d with standing := a },
    Shape.required "trial_ids" (Shape.list Shape.string) fun d a => { d with trials := a },
    Shape.defaulted "location" (Shape.optional Shape.string) fun d a => { d with location := a },
    Shape.defaulted "roles_in_trials" (Shape.map Role.shape) fun d a => { d with roles := a },
    Shape.defaulted "gender" (Shape.optional Gender.shape) fun d a => { d with gender := a },
    Shape.defaulted "attributes" (Shape.map Shape.any) fun d a => { d with attributes := a }]
  strict := false
  start := ⟨none, none, none, none, none, none⟩
  build := fun d => do
    let standing ← Shape.present "entity_type" d.standing
    let trials ← Shape.present "trial_ids" d.trials
    return {
      name, standing, trials
      location := d.location.getD none
      roles := d.roles.getD .empty
      gender := d.gender.getD none
      attributes := d.attributes.getD .empty }

/-- A record that could not be read, under the name it was given for. -/
structure Malformed where
  name : String
  reason : ShapeError

/-- The words for a record that cannot be read. -/
def Malformed.message (e : Malformed) : String :=
  "Malformed record '" ++ e.name ++ "': " ++ e.reason.message

/-- The name of a record that cannot be read, and why. -/
def Malformed.toJson (e : Malformed) : Json :=
  obj [("raw_name", str e.name), ("reason", str e.reason.message)]

/-- Reads the record of a name. -/
def ofRecord (name : String) (record : Json) : Except Malformed Mention :=
  ((recordKind name).shape record).mapError (⟨name, ·⟩)

/-- The record of a mention. -/
def toJson (m : Mention) : Json :=
  obj [("raw_name", str m.name), ("entity_type", str m.standing.label),
    ("location", ofOption str m.location), ("trial_ids", strs m.trials),
    ("roles_in_trials", obj (m.roles.toList.map fun (k, r) => (k, str r.label))),
    ("gender", ofOption (fun g => str g.label) m.gender),
    ("attributes", obj m.attributes.toList)]

end Prosopography.Mention
