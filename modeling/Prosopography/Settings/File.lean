import Prosopography.Settings.Basic
import Prosopography.Store.Path
import Prosopography.Toml.Reader
import Prosopography.Toml.Shape

/-!
# Settings files

A settings file has the tables `resolver`, `paths` and `logging`. Whatever it
leaves out keeps its default, and an override wins over the file.
-/

namespace Prosopography

open Json

/-- Where the tables of a run are and where its results go. -/
structure Paths where
  entities : Path
  trials : Path
  output : Path
deriving Repr, DecidableEq

/-- The paths of a run that is given none. -/
def Paths.standard : Paths where
  entities := .ofText "data/extracted_entities.json"
  trials := .ofText "data/trials.json"
  output := .ofText "output"

/-- The record of some paths, if all of them are texts. -/
def Paths.toJson (p : Paths) : Except WriteError Json := do
  return obj [("entities", ← p.entities.toJson), ("trials", ← p.trials.toJson),
    ("output_dir", ← p.output.toJson)]

/-- All that a settings file says. -/
structure FileSettings where
  resolver : Settings
  paths : Paths
  logLevel : String

/-- Settings given besides the file; an absent one leaves the file's. -/
structure Overrides where
  entities : Option Path
  trials : Option Path
  output : Option Path
  mergeThreshold : Option Float
  givenNameThreshold : Option Float
  minKeyLength : Option Nat
  strategy : Option Strategy
  attachSurnames : Option Bool
  superWitnessMin : Option Nat
  logLevel : Option String

namespace FileSettings

/-- The contents of a file that sets nothing. -/
def standard : FileSettings where
  resolver := .standard
  paths := .standard
  logLevel := "info"

/-- The record of all settings, if all their paths are texts. -/
def toJson (s : FileSettings) : Except WriteError Json := do
  return obj [("resolver", s.resolver.toJson), ("paths", ← s.paths.toJson),
    ("logging", obj [("level", str s.logLevel)])]

open Toml.Shape in
/-- Reads the section of the settings of a run. -/
def resolverShape : Toml.Shape Settings :=
  record .standard [
    field "merge_threshold" double fun s a => { s with mergeThreshold := a },
    field "given_name_threshold" double fun s a => { s with givenNameThreshold := a },
    field "min_key_length" count fun s a => { s with minKeyLength := a },
    field "merge_strategy" (variant Strategy.all) fun s a => { s with strategy := a },
    field "attach_surname_references" boolean fun s a => { s with attachSurnames := a },
    field "super_witness_min_trials" count fun s a => { s with superWitnessMin := a },
    field "id_prefix" string fun s a => { s with idStem := a },
    field "id_width" count fun s a => { s with idWidth := a }]

open Toml.Shape in
/-- Reads the section of the paths. -/
def pathsShape : Toml.Shape Paths :=
  record .standard [
    field "entities" string fun p a => { p with entities := .ofText a },
    field "trials" string fun p a => { p with trials := .ofText a },
    field "output_dir" string fun p a => { p with output := .ofText a }]

open Toml.Shape in
/-- Reads a file of settings, all of whose sections may be absent. -/
def shape : Toml.Shape FileSettings :=
  record standard [
    field "resolver" resolverShape fun s a => { s with resolver := a },
    field "paths" pathsShape fun s a => { s with paths := a },
    field "logging" (record standard.logLevel [field "level" string fun _ a => a])
      fun s a => { s with logLevel := a }]

/-- The settings of a file, unless its text is no TOML or says anything else. -/
def ofToml? (text : String) : Option FileSettings := (Toml.ofString? text).bind shape

/-- The settings of the file, in which the options of the command line come first. -/
def override (s : FileSettings) (o : Overrides) : FileSettings where
  resolver := { s.resolver with
    mergeThreshold := o.mergeThreshold.getD s.resolver.mergeThreshold
    givenNameThreshold := o.givenNameThreshold.getD s.resolver.givenNameThreshold
    minKeyLength := o.minKeyLength.getD s.resolver.minKeyLength
    strategy := o.strategy.getD s.resolver.strategy
    attachSurnames := o.attachSurnames.getD s.resolver.attachSurnames
    superWitnessMin := o.superWitnessMin.getD s.resolver.superWitnessMin }
  paths := {
    entities := o.entities.getD s.paths.entities
    trials := o.trials.getD s.paths.trials
    output := o.output.getD s.paths.output }
  logLevel := o.logLevel.getD s.logLevel

end FileSettings

end Prosopography
