import Prosopography.Cluster.Policy
import Prosopography.Person.OfCluster

/-!
# Settings of a run

Every setting has a default. A run accepts settings whose thresholds lie between
0 and 100 and whose two minimal counts are not zero.
-/

namespace Prosopography

open Json

/-- How accepted pairs of clusters are brought together. -/
inductive Strategy where
  /-- One pass, in which an absorbed cluster absorbs nothing. -/
  | greedy
  /-- Components of accepted pairs. -/
  | transitive
deriving Repr, DecidableEq

namespace Strategy

/-- The name of a strategy in settings and options. -/
def label : Strategy → String
  | greedy => "greedy"
  | transitive => "transitive"

/-- Both strategies under their names. -/
def all : List (String × Strategy) := [greedy, transitive].map fun s => (s.label, s)

/-- A label that names no strategy, as it was compared. -/
structure LabelError where
  label : String
deriving Repr, DecidableEq

/-- The error of a name that no strategy has. -/
def LabelError.message (e : LabelError) : String :=
  "unknown merge strategy: " ++ e.label ++ ". Use greedy or transitive"

/-- Reads a label without regard to ASCII case and to blanks around it. -/
def ofLabel (s : String) : Except LabelError Strategy :=
  let s := String.ofList ((Text.trim s.toList).map Char.toLower)
  match all.find? (·.1 == s) with
  | some (_, a) => .ok a
  | none => .error ⟨s⟩

/-- Reads a strategy by its name. -/
def shape : Shape Strategy := Shape.variant all

end Strategy

/-- What the user can set of a run. -/
structure Settings where
  mergeThreshold : Float
  givenNameThreshold : Float
  /-- Shorter keys are never merged. -/
  minKeyLength : Nat
  strategy : Strategy
  /-- Whether references by surname are attached. -/
  attachSurnames : Bool
  /-- Distinct trials that make a super-witness. -/
  superWitnessMin : Nat
  idStem : String
  idWidth : Nat

namespace Settings

/-- The settings of a run for which none are given. -/
def standard : Settings where
  mergeThreshold := 95.0
  givenNameThreshold := 90.0
  minKeyLength := 5
  strategy := .greedy
  attachSurnames := true
  superWitnessMin := 3
  idStem := "E"
  idWidth := 5

instance : Inhabited Settings := ⟨standard⟩

/-- The part of the settings that decides on merges. -/
def policy (s : Settings) : MergePolicy where
  mergeThreshold := s.mergeThreshold
  givenNameThreshold := s.givenNameThreshold
  minKeyLength := s.minKeyLength

/-- The part of the settings that identifiers are written by. -/
def idFormat (s : Settings) : IdFormat := ⟨s.idStem, s.idWidth⟩

/-- A setting with its name that no run accepts. -/
inductive Error where
  | thresholdOutOfRange (name : String) (value : Float)
  | belowMinimum (name : String) (minimum actual : Nat)

/-- Thresholds in messages are positional and keep no point. -/
def thresholdLayout : Decimal.Layout where
  positional := none
  pointZero := false
  nan := "NaN"
  infinity := "inf"
  tie := .up

/-- What is wrong with the settings, and the value they have. -/
def Error.message : Error → String
  | thresholdOutOfRange name value =>
    "Threshold '" ++ name ++ "' is " ++ thresholdLayout.text value ++
      ", expected a value in [0, 100]"
  | belowMinimum name minimum actual =>
    "Setting '" ++ name ++ "' must be at least " ++ toString minimum ++ " (got " ++
      toString actual ++ ")"

/-- Accepts the numbers from 0 to 100, of which none is NaN. -/
def checkThreshold (name : String) (value : Float) : Except Error Unit :=
  if 0.0 ≤ value ∧ value ≤ 100.0 then .ok () else .error (.thresholdOutOfRange name value)

/-- Accepts the numbers from a minimum on. -/
def checkMinimum (name : String) (minimum actual : Nat) : Except Error Unit :=
  if actual < minimum then .error (.belowMinimum name minimum actual) else .ok ()

/-- Accepts the settings as they are, or names the first one that is out of range. -/
def validate (s : Settings) : Except Error Settings := do
  checkThreshold "merge_threshold" s.mergeThreshold
  checkThreshold "given_name_threshold" s.givenNameThreshold
  checkMinimum "super_witness_min_trials" 1 s.superWitnessMin
  checkMinimum "id_width" 1 s.idWidth
  return s

/-- A field that stores one setting and may be absent. -/
def field {α : Type} (name : String) (shape : Shape α) (set : Settings → α → Settings) :
    Shape.Field Settings where
  name
  aliases := []
  needed := false
  store := fun s v => (shape v).map (set s)

/-- The record of the settings, each of which has a default. -/
def recordKind : Shape.RecordKind Settings Settings where
  title := "ResolverConfig"
  fields := [
    field "merge_threshold" Shape.double fun s a => { s with mergeThreshold := a },
    field "given_name_threshold" Shape.double fun s a => { s with givenNameThreshold := a },
    field "min_key_length" Shape.count fun s a => { s with minKeyLength := a },
    field "merge_strategy" Strategy.shape fun s a => { s with strategy := a },
    field "attach_surname_references" Shape.boolean fun s a => { s with attachSurnames := a },
    field "super_witness_min_trials" Shape.count fun s a => { s with superWitnessMin := a },
    field "id_prefix" Shape.string fun s a => { s with idStem := a },
    field "id_width" Shape.count fun s a => { s with idWidth := a }]
  strict := true
  start := standard
  build := .ok

/-- Settings from a record; other fields are refused, absent ones keep their defaults. -/
def shape : Shape Settings := recordKind.shape

/-- The settings as the manifest has them. -/
def toJson (s : Settings) : Json :=
  obj [("merge_threshold", float s.mergeThreshold),
    ("given_name_threshold", float s.givenNameThreshold),
    ("min_key_length", ofNat s.minKeyLength), ("merge_strategy", str s.strategy.label),
    ("attach_surname_references", bool s.attachSurnames),
    ("super_witness_min_trials", ofNat s.superWitnessMin), ("id_prefix", str s.idStem),
    ("id_width", ofNat s.idWidth)]

end Settings

end Prosopography
