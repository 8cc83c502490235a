import Prosopography.Json.Shape
import Prosopography.Person.Basic

/-!
# Statistics of a run

Distributions over the persons of a run, and the counts that tell how clean the
run was.
-/

namespace Prosopography

open Json

/-- How often each label occurs. -/
def tallyLabels (labels : List String) : SortedMap Nat :=
  labels.foldl (fun m l => m.insert l ((m.find? l).getD 0 + 1)) .empty

/-- Totals over all persons of a run. -/
structure Statistics where
  /-- Recorded names that belong to a person. -/
  names : Nat
  persons : Nat
  /-- Names for each person, 0 without persons. -/
  compression : Float
  standings : SortedMap Nat
  genders : SortedMap Nat
  /-- Persons in more than one trial. -/
  multiTrial : Nat
  /-- Persons flagged as witness and accused. -/
  transitions : Nat

namespace Statistics

/-- The totals of some persons and of the names that belong to them. -/
def of (persons : List Person) (attribution : Attribution) : Statistics where
  names := attribution.size
  persons := persons.length
  compression :=
    if persons.isEmpty then 0.0
    else Float.ofNat attribution.size / Float.ofNat persons.length
  standings := tallyLabels (persons.map (·.standing.label))
  genders := tallyLabels (persons.map (·.gender.label))
  multiTrial := persons.countP fun p => 1 < p.distinctTrials.length
  transitions := persons.countP (·.witnessToAccused)

/-- Counts as an object from labels to numbers. -/
def countsJson (m : SortedMap Nat) : Json := obj (m.toList.map fun (k, n) => (k, ofNat n))

/-- The totals as they are saved. -/
def toJson (s : Statistics) : Json :=
  obj [("total_raw_entities", ofNat s.names), ("total_canonical_entities", ofNat s.persons),
    ("compression_ratio", float s.compression), ("entity_types", countsJson s.standings),
    ("genders", countsJson s.genders), ("multi_trial_entities", ofNat s.multiTrial),
    ("witness_to_accused_transitions", ofNat s.transitions)]

end Statistics

/-- What a run counted along the way. -/
structure RunSummary where
  malformedMentions : Nat
  malformedTrials : Nat
  /-- Names with an empty key. -/
  manualReview : Nat
  initialClusters : Nat
  /-- Clusters left after merging and attachment. -/
  mergedClusters : Nat
  merges : Nat
  attachments : Nat
  /-- Appearances in unknown trials. -/
  unresolvedTrials : Nat
deriving Repr, DecidableEq

namespace RunSummary

/-- The counters of a run read so far. -/
structure Draft where
  malformedMentions : Option Nat
  malformedTrials : Option Nat
  manualReview : Option Nat
  initialClusters : Option Nat
  mergedClusters : Option Nat
  merges : Option Nat
  attachments : Option Nat
  unresolvedTrials : Option Nat

/-- The record of the counters, which has all of them. -/
def recordKind : Shape.RecordKind Draft RunSummary where
  title := "RunSummary"
  fields := [
    Shape.required "malformed_records" Shape.count fun d a => { d with malformedMentions := a },
    Shape.required "malformed_trials" Shape.count fun d a => { d with malformedTrials := a },
    Shape.required "manual_review" Shape.count fun d a => { d with manualReview := a },
    Shape.required "initial_clusters" Shape.count fun d a => { d with initialClusters := a },
    Shape.required "merged_clusters" Shape.count fun d a => { d with mergedClusters := a },
    Shape.required "fuzzy_merges" Shape.count fun d a => { d with merges := a },
    Shape.required "surname_attachments" Shape.count fun d a => { d with attachments := a },
    Shape.required "unresolved_trial_refs" Shape.count
      fun d a => { d with unresolvedTrials := a }]
  strict := false
  start := ⟨none, none, none, none, none, none, none, none⟩
  build := fun d => do
    let malformedMentions ← Shape.present "malformed_records" d.malformedMentions
    let malformedTrials ← Shape.present "malformed_trials" d.malformedTrials
    let manualReview ← Shape.present "manual_review" d.manualReview
    let initialClusters ← Shape.present "initial_clusters" d.initialClusters
    let mergedClusters ← Shape.present "merged_clusters" d.mergedClusters
    let merges ← Shape.present "fuzzy_merges" d.merges
    let attachments ← Shape.present "surname_attachments" d.attachments
    let unresolvedTrials ← Shape.present "unresolved_trial_refs" d.unresolvedTrials
    return {
      malformedMentions, malformedTrials, manualReview, initialClusters, mergedClusters
      merges, attachments, unresolvedTrials }

/-- Reads saved counters. -/
def shape : Shape RunSummary := recordKind.shape

/-- Adds what was skipped when the tables were read. -/
def withInputIssues (s : RunSummary) (mentions trials : Nat) : RunSummary :=
  { s with malformedMentions := mentions, malformedTrials := trials }

/-- Whether nothing was skipped, set aside or left unresolved. -/
def isClean (s : RunSummary) : Bool :=
  s.malformedMentions == 0 && s.malformedTrials == 0 && s.manualReview == 0 &&
    s.unresolvedTrials == 0

/-- The counters as they are saved. -/
def toJson (s : RunSummary) : Json :=
  obj [("malformed_records", ofNat s.malformedMentions),
    ("malformed_trials", ofNat s.malformedTrials), ("manual_review", ofNat s.manualReview),
    ("initial_clusters", ofNat s.initialClusters), ("merged_clusters", ofNat s.mergedClusters),
    ("fuzzy_merges", ofNat s.merges), ("surname_attachments", ofNat s.attachments),
    ("unresolved_trial_refs", ofNat s.unresolvedTrials)]

end RunSummary

end Prosopography
