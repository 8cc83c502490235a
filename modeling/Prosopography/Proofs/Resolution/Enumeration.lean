import Prosopography.Proofs.Cluster.Order
import Prosopography.Proofs.Collection.IndexedTable
import Prosopography.Proofs.Resolution.Clusters

/-!
# The enumeration of persons

A person is called by the key of the name that is recorded first among its variants, and
persons are numbered in the order in which these names are recorded.
-/

namespace Prosopography

open Cluster

namespace Settings

variable (s : Settings) (cs : List Cluster)

theorem continueInOrder_merge : ContinueInOrder (s.merge cs).clusters cs := by
  rw [merge]
  cases s.strategy with
  | greedy => exact s.policy.continueInOrder_mergeGreedy cs
  | transitive => exact s.policy.continueInOrder_mergeTransitive cs

theorem continueInOrder_attach : ContinueInOrder (s.attach cs).clusters cs := by
  rw [attach]
  split
  · exact continueInOrder_attachSurnames cs
  · exact (List.Sublist.refl cs).sublistForall₂

/-- Merging and attaching keep the order of the clusters that are left. -/
theorem continueInOrder_gather : ContinueInOrder (s.gather cs).clusters cs :=
  (s.continueInOrder_attach _).trans (s.continueInOrder_merge cs)

end Settings

namespace Resolution

/-- Persons are numbered in the order of their first variants, and called by the keys of these. -/
structure Enumerates (r : Resolution) (format : IdFormat) (mentions : MentionTable) : Prop where
  numbered : r.persons.map (·.id) =
    (List.range r.persons.length).map fun i => .sequential format.stem format.width (i + 1)
  /-- The positions of the first variants increase from person to person. -/
  ordered : ∃ positions : List Nat, positions.Pairwise (· < ·) ∧
    List.Forall₂ (fun p i => ∃ v, p.variants.head? = some v ∧ p.key = Name.key v ∧
      mentions.position? v = some i) r.persons positions

variable (settings : Settings) (mentions : MentionTable) (trials : TrialTable)

/-- The clusters of a run stand in the order in which their first members are recorded. -/
theorem startsWith_clusters :
    List.SublistForall₂ StartsWith (clusters settings mentions) mentions.toList :=
  sublistForall₂_comp (fun _ _ _ hcontinues hstart => hcontinues.startsWith hstart)
    (settings.continueInOrder_gather _) (startsWith_initial mentions)

/-- The persons come in the order of their first variants, whose key they have. -/
theorem startsWith_persons :
    List.SublistForall₂ (fun p m => p.variants.head? = some m.name ∧ p.key = Name.key m.name)
      (run settings mentions trials).persons mentions.toList := by
  have hpersons := forall₂_persons_run settings mentions trials
  apply sublistForall₂_comp _ (List.sublistForall₂_iff.mpr ⟨_, hpersons, .refl _⟩)
    (startsWith_clusters settings mentions)
  rintro _ c m ⟨id, rfl⟩ hc
  exact ⟨hc.member, hc.key⟩

theorem enumerates_run :
    (run settings mentions trials).Enumerates settings.idFormat mentions where
  numbered := ids_run settings mentions trials
  ordered := by
    have hpositions := List.sublistForall₂_iff.mpr
      ⟨_, IndexedTable.forall₂_position? mentions, .refl _⟩
    have hfirsts : List.SublistForall₂ (fun p i => ∃ v, p.variants.head? = some v ∧
        p.key = Name.key v ∧ mentions.position? v = some i)
        (run settings mentions trials).persons (List.range mentions.size) := by
      apply sublistForall₂_comp _ (startsWith_persons settings mentions trials) hpositions
      rintro p m i ⟨hfirst, hkey⟩ hi
      exact ⟨m.name, hfirst, hkey, hi⟩
    obtain ⟨positions, hforall, hsub⟩ := List.sublistForall₂_iff.mp hfirsts
    exact ⟨positions, List.pairwise_lt_range.sublist hsub, hforall⟩

end Resolution

end Prosopography
