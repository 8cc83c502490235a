import Prosopography.Cluster.Basic
import Prosopography.Person.Basic
import Prosopography.Trial.Basic

/-!
# Persons from clusters

Every cluster becomes one person, with identifiers in cluster order. An
appearance in a trial that the table does not hold is kept without a year and
counted.
-/

namespace Prosopography

/-- The attribute of persons who were witness in one trial and accused in another. -/
def witnessToAccusedFlag : String := "witness_to_accused"

/-- The appearances of one mention: one for each of its trials. -/
def Mention.appearances (m : Mention) (trials : TrialTable) : List Appearance :=
  (Person.firstSeen m.trials).map fun t => ⟨t, m.roleIn t, trials.yearOf t, m.name⟩

/-- How persons are numbered. -/
structure IdFormat where
  stem : String
  width : Nat

/-- The letter `E` and at least five digits. -/
def IdFormat.standard : IdFormat := ⟨"E", 5⟩

namespace Person

/-- The members of a cluster that the table knows. -/
def mentionsOf (mentions : MentionTable) (c : Cluster) : List Mention :=
  c.members.filterMap mentions.get?

/-- The role in each trial; of several appearances in one trial the last counts. -/
def rolesOf (appearances : List Appearance) : SortedMap Role :=
  appearances.foldl (fun m a => m.insert a.trial a.role) .empty

/-- The outcome of a person's own trials. -/
def outcomeOf (trials : TrialTable) (standing : Standing) (appearances : List Appearance) :
    Option String :=
  if standing = .accused then
    trials.outcomeAmong ((appearances.filter (·.role == .accused)).map (·.trial))
  else none

/-- The person a cluster stands for, whose data is merged from its members in order. -/
def ofCluster (mentions : MentionTable) (trials : TrialTable) (id : PersonId) (c : Cluster) :
    Person :=
  let ms := mentionsOf mentions c
  let appearances := ms.flatMap (·.appearances trials)
  let roles := rolesOf appearances
  let standing := Standing.highest (ms.map (·.standing))
  let merged := ms.foldl (fun m a => mergeAttributes m a.attributes) .empty
  let flagged := roles.values.contains .witness && roles.values.contains .accused
  { id
    key := c.key
    variants := c.members
    standing
    gender := Gender.majority (ms.filterMap (·.gender))
    locations := .ofList (ms.filterMap (·.place?))
    appearances
    roles
    outcome := outcomeOf trials standing appearances
    witnessToAccused := flagged
    attributes := if flagged then merged.insert witnessToAccusedFlag (.bool true) else merged }

/-- Appearances in trials that the table does not hold. -/
def unresolvedTrials (trials : TrialTable) (p : Person) : Nat :=
  p.appearances.countP fun a => !trials.contains a.trial

end Person

/-- The persons of a run and the names that belong to them. -/
structure Census where
  persons : List Person
  attribution : Attribution
  unresolved : Nat

namespace Census

/-- Assigns every variant of some persons. -/
def attributionOf (persons : List Person) : Attribution :=
  (persons.flatMap fun p => p.variants.map fun v => (v, p.id)).foldl
    (fun t e => (t.assign e.1 e.2).1) .empty

/-- The persons of all clusters, numbered from one in the order of the clusters. -/
def ofClusters (mentions : MentionTable) (trials : TrialTable) (format : IdFormat)
    (cs : List Cluster) : Census :=
  let persons := cs.zipIdx.map fun (c, i) =>
    Person.ofCluster mentions trials (.sequential format.stem format.width (i + 1)) c
  { persons
    attribution := attributionOf persons
    unresolved := persons.foldl (fun n p => n + p.unresolvedTrials trials) 0 }

end Census

end Prosopography
