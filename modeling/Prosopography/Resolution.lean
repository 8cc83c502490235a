import Prosopography.Cluster.Greedy
import Prosopography.Cluster.Initial
import Prosopography.Cluster.Surname
import Prosopography.Cluster.Transitive
import Prosopography.Person.OfCluster
import Prosopography.Report.Statistics
import Prosopography.Report.SuperWitness
import Prosopography.Report.Transition
import Prosopography.Settings.Basic

/-!
# Resolution

A run gathers mentions with one key, merges clusters with similar keys, attaches
references by surname and turns the clusters into persons. It depends on nothing
but the tables, in their order, and the settings. Where there are persons, their
identifiers must not be wider than the widest.
-/

namespace Prosopography

/-- All that one run gives. -/
structure Resolution where
  persons : List Person
  attribution : Attribution
  log : Log
  transitions : List Transition
  superWitnesses : List SuperWitness
  statistics : Statistics
  summary : RunSummary
  /-- Names whose key is empty. -/
  manualReview : List String

namespace Settings

/-- Merges clusters by the strategy of the settings. -/
def merge (s : Settings) (cs : List Cluster) : Outcome :=
  match s.strategy with
  | .greedy => s.policy.mergeGreedy cs
  | .transitive => s.policy.mergeTransitive cs

/-- Attaches references by surname where the settings ask for it. -/
def attach (s : Settings) (cs : List Cluster) : Outcome :=
  if s.attachSurnames then Cluster.attachSurnames s.mergeThreshold cs else ⟨cs, []⟩

/-- Merges clusters and attaches references. -/
def gather (s : Settings) (cs : List Cluster) : Outcome :=
  let merged := s.merge cs
  let attached := s.attach merged.clusters
  ⟨attached.clusters, merged.log ++ attached.log⟩

end Settings

namespace Resolution

/-- The run with settings that are taken as they are. -/
def run (settings : Settings) (mentions : MentionTable) (trials : TrialTable) : Resolution :=
  let initial := Cluster.initial mentions
  let gathered := settings.gather initial.clusters
  let census := Census.ofClusters mentions trials settings.idFormat gathered.clusters
  { persons := census.persons
    attribution := census.attribution
    log := gathered.log
    transitions := Transition.ofPersons census.persons
    superWitnesses := SuperWitness.ofPersons settings.superWitnessMin census.persons
    statistics := .of census.persons census.attribution
    summary := {
      malformedMentions := 0
      malformedTrials := 0
      manualReview := initial.unkeyed.length
      initialClusters := initial.clusters.length
      mergedClusters := gathered.clusters.length
      merges := gathered.log.count .merge
      attachments := gathered.log.count .attach
      unresolvedTrials := census.unresolved }
    manualReview := initial.unkeyed }

/-- Whether there are identifiers for the persons of a run. -/
def canNumber (settings : Settings) (mentions : MentionTable) : Bool :=
  settings.idWidth ≤ PersonId.maxWidth ||
    (settings.gather (Cluster.initial mentions).clusters).clusters.isEmpty

/-- The run, if there are identifiers for its persons. -/
def run? (settings : Settings) (mentions : MentionTable) (trials : TrialTable) :
    Option Resolution :=
  if canNumber settings mentions then some (run settings mentions trials) else none

/-- The person a recorded name belongs to. -/
def personOf? (r : Resolution) (name : String) : Option Person :=
  (r.attribution.idOf? name).bind fun id => r.persons.find? (·.id == id)

end Resolution

end Prosopography
