import Prosopography.Proofs.Cluster.Entries
import Prosopography.Proofs.Resolution.Clusters

/-!
# What identities depend on

Who is one person, under which identifier and for which decisions, depends on the recorded
names and places alone. Standings, trials, roles, genders and attributes have no part in it,
nor has the way in which a place is written.
-/

namespace Prosopography.Resolution

open Cluster

/-- Two resolutions that identify the same persons under the same names. -/
structure SameIdentities (r r' : Resolution) : Prop where
  persons : r.persons.map (fun p => (p.id, p.key, p.variants)) =
    r'.persons.map fun p => (p.id, p.key, p.variants)
  attribution : r.attribution = r'.attribution
  log : r.log = r'.log
  manualReview : r.manualReview = r'.manualReview
  initialClusters : r.summary.initialClusters = r'.summary.initialClusters
  mergedClusters : r.summary.mergedClusters = r'.summary.mergedClusters
  merges : r.summary.merges = r'.summary.merges
  attachments : r.summary.attachments = r'.summary.attachments

/-- Names are attributed by the variants and identifiers of persons. -/
theorem attributionOf_congr {persons persons' : List Person}
    (h : persons.map (fun p => (p.id, p.key, p.variants)) =
      persons'.map fun p => (p.id, p.key, p.variants)) :
    Census.attributionOf persons = Census.attributionOf persons' := by
  have hassigned : ∀ ps : List Person,
      (ps.flatMap fun p => p.variants.map fun v => (v, p.id)) =
        (ps.map fun p => (p.id, p.key, p.variants)).flatMap fun e =>
          e.2.2.map fun v => (v, e.1) := by
    intro ps
    rw [List.flatMap_map]
  rw [Census.attributionOf, Census.attributionOf, hassigned, hassigned, h]

section SamePlaces

variable (settings : Settings) {mentions mentions' : MentionTable}
  (h : List.Forall₂ Mention.SameNameAndPlace mentions.toList mentions'.toList)
include h

theorem canNumber_congr : canNumber settings mentions = canNumber settings mentions' := by
  rw [canNumber, canNumber, initial_congr h]

/-- Who the persons are depends on names and places alone. -/
theorem persons_congr (trials trials' : TrialTable) :
    (run settings mentions trials).persons.map (fun p => (p.id, p.key, p.variants)) =
      (run settings mentions' trials').persons.map fun p => (p.id, p.key, p.variants) := by
  rw [persons_run, persons_run, clusters, clusters, initial_congr h, List.map_map, List.map_map]
  rfl

/-- All that identifies persons depends on names and places alone. -/
theorem sameIdentities_run (trials trials' : TrialTable) :
    (run settings mentions trials).SameIdentities (run settings mentions' trials') where
  persons := persons_congr settings h trials trials'
  attribution := attributionOf_congr (persons_congr settings h trials trials')
  log := congrArg (fun i : Initial => (settings.gather i.clusters).log) (initial_congr h)
  manualReview := congrArg (·.unkeyed) (initial_congr h)
  initialClusters := congrArg (·.clusters.length) (initial_congr h)
  mergedClusters :=
    congrArg (fun i : Initial => (settings.gather i.clusters).clusters.length) (initial_congr h)
  merges :=
    congrArg (fun i : Initial => (settings.gather i.clusters).log.count .merge) (initial_congr h)
  attachments :=
    congrArg (fun i : Initial => (settings.gather i.clusters).log.count .attach) (initial_congr h)

/-- Runs on the same names at the same places identify the same persons, or there are
identifiers for the persons of neither. -/
theorem sameIdentities_of_sameNamesAndPlaces (trials trials' : TrialTable) :
    Option.Rel SameIdentities (run? settings mentions trials)
      (run? settings mentions' trials') := by
  rw [run?, run?, canNumber_congr settings h]
  split
  · exact .some (sameIdentities_run settings h trials trials')
  · exact .none

end SamePlaces

/-- Two names recorded in one town, and a reference by their surname. -/
def petitRecorded : MentionTable := .ofPuts [
  (Mention.of "Anne Petit" .witness).withLocation "Toul",
  (Mention.of "Anne Jean Petit" .witness).withLocation "Toul",
  .of "la Petit" .witness]

/-- The same names and places, with other standings, trials and spellings of places. -/
def petitRetold : MentionTable := .ofPuts [
  (Mention.of "Anne Petit" .accused).withLocation " TOUL",
  ((Mention.of "Anne Jean Petit" .person).withLocation "toul ").withTrial "T1" .accused,
  (Mention.of "la Petit" .authority).withLocation " "]

/-- A table retold with other roles, trials and genders has the same persons. -/
theorem sameIdentities_petitRetold :
    List.Forall₂ Mention.SameNameAndPlace petitRecorded.toList petitRetold.toList ∧
      ∃ r r', run? .standard petitRecorded .empty = some r ∧
        run? .standard petitRetold (.ofAdds [.of "T1" (some "1590") none]) = some r' ∧
          r.persons.map (·.variants) = [["Anne Petit", "Anne Jean Petit", "la Petit"]] ∧
            r.SameIdentities r' := by
  have hsame : List.Forall₂ Mention.SameNameAndPlace petitRecorded.toList petitRetold.toList := by
    refine .cons ⟨rfl, ?_⟩ (.cons ⟨rfl, ?_⟩ (.cons ⟨rfl, ?_⟩ .nil))
    all_goals decide +kernel
  have hrel : Option.Rel SameIdentities (some (run .standard petitRecorded .empty))
      (some (run .standard petitRetold (.ofAdds [.of "T1" (some "1590") none]))) :=
    sameIdentities_of_sameNamesAndPlaces .standard hsame .empty _
  cases hrel with
  | some h => exact ⟨hsame, _, _, rfl, rfl, by decide +kernel, h⟩

end Prosopography.Resolution
