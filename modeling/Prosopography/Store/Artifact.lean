import Prosopography.Csv.Printer
import Prosopography.Person.Record
import Prosopography.Resolution
import Prosopography.Store.Error
import Prosopography.Store.Load

/-!
# Artifacts of a run

A run is saved as ten files. JSON files are written over several lines and end
with a line feed; tables for other programs are written as comma-separated text
as well. The manifest comes last and names all files, the inputs and the settings.
All files are rendered before any is written, and one that cannot be rendered
stops that: rows of unequal length, or an input whose path is no text.
-/

namespace Prosopography

open Json

/-- A file to be written. -/
structure Artifact where
  name : String
  text : String
deriving Repr, DecidableEq

namespace Artifact

/-- A JSON file. -/
def ofJson (name : String) (v : Json) : Artifact := ⟨name, v.pretty ++ "\n"⟩

/-- A file of comma-separated text. -/
def ofRows (name : String) (rows : List (List String)) : Artifact := ⟨name, Csv.text rows⟩

/-- A JSON file, if there is a value for it. -/
def renderJson (name : String) (v : Except WriteError Json) : Except OutputError Artifact :=
  (v.map (ofJson name)).mapError (.notJson name)

/-- A file of comma-separated text, if its rows make a table. -/
def renderRows (name : String) (rows : List (List String)) : Except OutputError Artifact :=
  ((Csv.render rows).map (Artifact.mk name)).mapError (.notTable name)

/-- Lists in a cell are joined by semicolons. -/
def listCell (items : List String) : String := String.intercalate ";" items

/-- A flag as a cell. -/
def boolCell (b : Bool) : String := if b then "true" else "false"

/-- An absent value leaves its cell empty. -/
def optionCell (s : Option String) : String := s.getD ""

end Artifact

open Artifact

/-- The columns of the table of transitions. -/
def Transition.header : List String :=
  ["canonical_id", "canonical_name", "first_witness_trial", "first_witness_year",
    "first_accused_trial", "first_accused_year", "years_between", "total_witness_appearances",
    "outcome"]

/-- The cells of a transition, in the order of the columns. -/
def Transition.row (t : Transition) : List String :=
  [t.id.text, t.key, t.witnessTrial, toString t.witnessYear, t.accusedTrial,
    toString t.accusedYear, toString t.yearsBetween, toString t.witnessAppearances,
    optionCell t.outcome]

/-- The columns of the table of super-witnesses. -/
def SuperWitness.header : List String :=
  ["canonical_id", "canonical_name", "num_trials", "trial_ids", "years_active", "gender",
    "locations", "became_accused", "personal_suspicion"]

/-- The cells of a super-witness, in the order of the columns. -/
def SuperWitness.row (w : SuperWitness) : List String :=
  [w.id.text, w.key, toString w.count, listCell w.trials, listCell (w.years.toList.map toString),
    w.gender.label, listCell w.locations, boolCell w.becameAccused, boolCell w.personalSuspicion]

/-- Names without a key and rows that could not be read. -/
def Inputs.reviewJson (i : Inputs) (unkeyed : List String) : Json :=
  obj [("empty_key", strs unkeyed),
    ("malformed_records", arr (i.mentions.rows.malformed.map Mention.Malformed.toJson)),
    ("malformed_trials", arr (i.trials.rows.malformed.map Trial.Malformed.toJson))]

namespace Resolution

/-- All artifacts but the manifest. -/
def tables (r : Resolution) (i : Inputs) : Except OutputError (List Artifact) := do
  let transitions ← renderRows "witness_to_accused_transitions.csv"
    (Transition.header :: r.transitions.map Transition.row)
  let superWitnesses ← renderRows "super_witnesses_resolved.csv"
    (SuperWitness.header :: r.superWitnesses.map SuperWitness.row)
  return [
    ofJson "canonical_entities.json" (obj (r.persons.map fun p => (p.id.text, p.toJson))),
    ofJson "entity_mappings.json" r.attribution.toJson,
    ofJson "resolution_log.json" r.log.toJson,
    ofJson "witness_to_accused_transitions.json" (arr (r.transitions.map Transition.toJson)),
    transitions,
    superWitnesses,
    ofJson "super_witnesses_resolved.json" (arr (r.superWitnesses.map SuperWitness.toJson)),
    ofJson "resolution_statistics.json" r.statistics.toJson,
    ofJson "manual_review.json" (i.reviewJson r.manualReview)]

/-- The name of the file that lists all others. -/
def manifestName : String := "run_manifest.json"

/-- What was read and with which settings, what was counted, and what is written. -/
def manifest (r : Resolution) (i : Inputs) (s : Settings) (names : List String) :
    Except WriteError Json := do
  let summary :=
    r.summary.withInputIssues i.mentions.rows.malformed.length i.trials.rows.malformed.length
  return obj [
    ("inputs", obj [("entities", ← i.mentions.source.toJson),
      ("trials", ← i.trials.source.toJson)]),
    ("config", s.toJson), ("summary", summary.toJson), ("artifacts", strs names)]

/-- The artifacts in the order in which they are written. -/
def render (r : Resolution) (i : Inputs) (s : Settings) : Except OutputError (List Artifact) := do
  let tables ← r.tables i
  let names := tables.map (·.name) ++ [manifestName]
  return tables ++ [← renderJson manifestName (r.manifest i s names)]

end Resolution

end Prosopography
