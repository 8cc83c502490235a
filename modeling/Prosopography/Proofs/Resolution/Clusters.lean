import Prosopography.Resolution
import Prosopography.Proofs.Cluster.Components
import Prosopography.Proofs.Cluster.Greedy
import Prosopography.Proofs.Cluster.Surname
import Prosopography.Proofs.Person.Census

/-!
# The clusters of a run

What exact clustering, merging and attaching have in common: members are moved and
never lost or repeated, and no two places are brought together.
-/

namespace Prosopography

open Cluster
open scoped List

namespace Settings

variable (s : Settings)

theorem members_merge_perm (cs : List Cluster) :
    allMembers (s.merge cs).clusters ~ allMembers cs := by
  rw [merge]
  cases s.strategy with
  | greedy => exact s.policy.members_mergeGreedy_perm cs
  | transitive => exact s.policy.members_mergeTransitive_perm cs

theorem members_attach_perm (cs : List Cluster) :
    allMembers (s.attach cs).clusters ~ allMembers cs := by
  rw [attach]
  split
  · exact members_attachSurnames_perm cs
  · exact .refl _

/-- The stages of a run lose no member and add none. -/
theorem members_gather_perm (cs : List Cluster) :
    allMembers (s.gather cs).clusters ~ allMembers cs :=
  (s.members_attach_perm _).trans (s.members_merge_perm cs)

section Invariant

variable {s} {P : Cluster → Prop} {cs : List Cluster}

/-- What compatible clusters hand on to their union holds behind attachment. -/
theorem attach_forall
    (absorb : ∀ host c, host.compatible c = true → P host → P c → P (host.absorb c))
    (h : ∀ c ∈ cs, P c) : ∀ c ∈ (s.attach cs).clusters, P c := by
  rw [attach]
  split
  · apply attachSurnames_forall (fun _ hc => hc) _ h
    intro host c _ _ hhost hc _ hscore
    obtain ⟨-, -, -, hcompatible⟩ := surnameScore?_eq_some_iff.mp hscore
    exact absorb host c hcompatible hhost hc
  · exact h

/-- What clusters keep when they absorb each other, they have at the end. -/
theorem gather_forall (absorb : ∀ c d, P c → P d → P (c.absorb d)) (h : ∀ c ∈ cs, P c) :
    ∀ c ∈ (s.gather cs).clusters, P c := by
  apply attach_forall fun host c _ => absorb host c
  rw [merge]
  cases s.strategy with
  | greedy =>
      apply MergePolicy.mergeGreedy_forall _ (fun _ hc => hc) h
      intro c d hc hd _
      exact absorb c d hc hd
  | transitive => exact s.policy.mergeTransitive_forall absorb h

/-- Merging and attaching bring no two places together. -/
theorem atOnePlace_gather (h : ∀ c ∈ cs, c.AtOnePlace) :
    ∀ c ∈ (s.gather cs).clusters, c.AtOnePlace := by
  apply attach_forall (P := AtOnePlace) fun _ _ hcompatible hhost hc => hhost.absorb hc hcompatible
  rw [merge]
  cases s.strategy with
  | greedy =>
      apply MergePolicy.mergeGreedy_forall _ (fun _ hc => hc) h
      intro c d hc hd haccepted
      exact hc.absorb hd (MergePolicy.isSome_accepts?_iff.mp haccepted).2
  | transitive =>
      intro c hc
      exact s.policy.atOnePlace_mergeTransitive h hc

end Invariant

end Settings

namespace Resolution

variable (settings : Settings) (mentions : MentionTable) (trials : TrialTable)

/-- The clusters that a run turns into persons. -/
def clusters : List Cluster := (settings.gather (initial mentions).clusters).clusters

/-- The clusters of a run have every name with a key once. -/
theorem allMembers_clusters_perm :
    allMembers (clusters settings mentions) ~ keyedNames mentions :=
  (settings.members_gather_perm _).trans (allMembers_initial_perm mentions)

/-- The persons of a run are its clusters, numbered from one. -/
theorem persons_run :
    (run settings mentions trials).persons =
      (clusters settings mentions).zipIdx.map fun e =>
        Person.ofCluster mentions trials
          (.sequential settings.idStem settings.idWidth (e.2 + 1)) e.1 :=
  rfl

/-- Persons are numbered from one, in their order. -/
theorem ids_run :
    (run settings mentions trials).persons.map (·.id) =
      (List.range (run settings mentions trials).persons.length).map fun i =>
        .sequential settings.idStem settings.idWidth (i + 1) := by
  rw [persons_run, List.map_map, List.length_map, List.length_zipIdx]
  calc
    (clusters settings mentions).zipIdx.map
          (fun e => PersonId.sequential settings.idStem settings.idWidth (e.2 + 1)) =
        ((clusters settings mentions).zipIdx.map (·.2)).map
          fun i => .sequential settings.idStem settings.idWidth (i + 1) := by
      rw [List.map_map]
      rfl
    _ = (List.range (clusters settings mentions).length).map
          fun i => .sequential settings.idStem settings.idWidth (i + 1) := by
      rw [List.zipIdx_map_snd, List.range_eq_range']

/-- The names set aside are those without a key, in the order of the table. -/
theorem manualReview_run :
    (run settings mentions trials).manualReview =
      (mentions.toList.map (·.name)).filter fun v => (Name.key v).isEmpty :=
  unkeyed_initial mentions

/-- The variants of persons are the members of clusters. -/
theorem variants_persons_run :
    (run settings mentions trials).persons.map (·.variants) =
      (clusters settings mentions).map (·.members) := by
  rw [persons_run, List.map_map]
  calc
    (clusters settings mentions).zipIdx.map (fun e => e.1.members) =
        ((clusters settings mentions).zipIdx.map (·.1)).map (·.members) :=
      (List.map_map ..).symm
    _ = (clusters settings mentions).map (·.members) := by rw [List.zipIdx_map_fst]

/-- Persons stand in the order of the clusters that they are made of. -/
theorem forall₂_persons_run :
    List.Forall₂ (fun p c => ∃ id, p = Person.ofCluster mentions trials id c)
      (run settings mentions trials).persons (clusters settings mentions) :=
  Census.forall₂_persons mentions trials settings.idFormat _

variable {settings mentions trials}

theorem exists_cluster_of_mem_persons {p : Person}
    (h : p ∈ (run settings mentions trials).persons) :
    ∃ c ∈ clusters settings mentions, ∃ id, p = Person.ofCluster mentions trials id c := by
  rw [persons_run] at h
  obtain ⟨e, he, rfl⟩ := List.mem_map.mp h
  exact ⟨e.1, List.fst_mem_of_mem_zipIdx he, _, rfl⟩

theorem members_ne_nil {c : Cluster} (h : c ∈ clusters settings mentions) : c.members ≠ [] := by
  revert c
  apply Settings.gather_forall
  · intro c d hc _
    simp [hc]
  · intro c
    exact members_ne_nil_of_mem_initial

/-- No cluster of a run has more than one place. -/
theorem atOnePlace_clusters {c : Cluster} (h : c ∈ clusters settings mentions) :
    c.AtOnePlace :=
  Settings.atOnePlace_gather (fun _ => atOnePlace_initial) c h

/-- The places of a cluster are those of its members. -/
theorem placed_clusters {c : Cluster} (h : c ∈ clusters settings mentions) :
    c.Placed mentions := by
  revert c
  apply Settings.gather_forall
  · intro c d hc hd
    exact hc.absorb hd
  · intro c
    exact placed_of_mem_initial

end Resolution

end Prosopography
