import Prosopography.Proofs.Cluster.Connected
import Prosopography.Proofs.Cluster.GreedyParts
import Prosopography.Proofs.Cluster.Policy
import Prosopography.Proofs.Decimal.Order
import Mathlib.Data.List.Flatten

/-!
# Finer and coarser merging

Where no places tell clusters apart, transitive merging only joins what greedy merging,
or transitive merging under a stricter policy, has gathered: it never splits a merged
cluster and never reorders its members.
-/

namespace Prosopography

open Cluster
open scoped List

/-- Clusters that lie whole, with their members in order, within other clusters. -/
structure Refines (fine coarse : List Cluster) : Prop where
  within : ∀ c ∈ fine, ∃ d ∈ coarse, c.members.Sublist d.members
  /-- A coarse cluster is made of fine ones and of nothing else. -/
  whole : ∀ d ∈ coarse, ∃ bundle : List Cluster,
    bundle.Sublist fine ∧ d.members ~ allMembers bundle

namespace MergePolicy

variable {p : MergePolicy} {cs : List Cluster}

section Parts

variable {β : Type} {parts : List β} {merged : β → Cluster}
  (positions : β → List (Fin cs.length))
  (into : β → Fin (p.mergeTransitive cs).clusters.length)
  (hperm : parts.flatMap positions ~ List.finRange cs.length)
  (hsublist : ∀ b ∈ parts, (positions b).Sublist (List.finRange cs.length))
  (hmembers : ∀ b ∈ parts, (merged b).members = (positions b).flatMap fun i => (cs.get i).members)
  (hinto : ∀ b ∈ parts, ∀ i ∈ positions b, p.home cs i = into b)
include hinto

theorem filter_positions {b : β} (hb : b ∈ parts)
    (k : Fin (p.mergeTransitive cs).clusters.length) :
    (positions b).filter (p.home cs · == k) = if into b == k then positions b else [] := by
  split
  · rename_i hk
    apply List.filter_eq_self.mpr
    intro i hi
    rwa [hinto b hb i hi]
  · rename_i hk
    apply List.filter_eq_nil_iff.mpr
    intro i hi
    rwa [hinto b hb i hi]

include hperm hsublist hmembers

/-- Parts of the input that transitive merging keeps together are refined by its clusters. -/
theorem refines_of_parts : Refines (parts.map merged) (p.mergeTransitive cs).clusters where
  within c hc := by
    obtain ⟨b, hb, rfl⟩ := List.mem_map.mp hc
    refine ⟨_, List.get_mem _ (into b), ?_⟩
    have hpart := (hsublist b hb).filter (p.home cs · == into b)
    rw [filter_positions positions into hinto hb, if_pos BEq.rfl] at hpart
    rw [hmembers b hb, members_clusters]
    exact hpart.flatMap _
  whole d hd := by
    obtain ⟨k, rfl⟩ := List.get_of_mem hd
    refine ⟨(parts.filter (into · == k)).map merged, List.filter_sublist.map merged, ?_⟩
    have hbundle : (parts.flatMap positions).filter (p.home cs · == k) =
        (parts.filter (into · == k)).flatMap positions := by
      rw [List.filter_flatMap, flatMap_filter]
      exact List.flatMap_congr fun b hb => filter_positions positions into hinto hb k
    calc
      ((p.mergeTransitive cs).clusters.get k).members =
          ((List.finRange cs.length).filter (p.home cs · == k)).flatMap
            fun i => (cs.get i).members := p.members_clusters cs k
      _ ~ ((parts.flatMap positions).filter (p.home cs · == k)).flatMap
            fun i => (cs.get i).members := ((hperm.filter _).flatMap_right _).symm
      _ = (parts.filter (into · == k)).flatMap fun b => (merged b).members := by
        rw [hbundle, List.flatMap_assoc]
        apply List.flatMap_congr
        intro b hb
        exact (hmembers b (List.mem_of_mem_filter hb)).symm
      _ = allMembers ((parts.filter (into · == k)).map merged) := (List.flatMap_map ..).symm

end Parts

theorem members_absorbing {α : Type} (f : α → Cluster) (target : Cluster) (l : List α) :
    (absorbing f target l).members = target.members ++ l.flatMap fun a => (f a).members := by
  rw [absorbing, members_foldl_absorb, List.flatMap_map]

/-- Transitive merging joins what greedy merging gathers. -/
theorem refines_mergeGreedy (p : MergePolicy) (cs : List Cluster) (h : Compatible cs) :
    Refines (p.mergeGreedy cs).clusters (p.mergeTransitive cs).clusters := by
  have hgreedy := p.mergeGreedy_map cs.get (List.finRange cs.length)
  rw [List.map_get_finRange] at hgreedy
  rw [hgreedy]
  apply refines_of_parts (fun g => g.1 :: g.2) (fun g => p.home cs g.1)
  · exact p.greedyParts_perm cs.get _
  · intro g hg
    exact sublist_of_mem_greedyParts hg
  · intro g hg
    rw [members_absorbing, List.flatMap_cons]
  · intro g hg i hi
    rcases List.mem_cons.mp hi with rfl | hi
    · rfl
    · have hlt : g.1 < i :=
        List.rel_of_pairwise_cons
          ((List.pairwise_lt_finRange _).sublist (sublist_of_mem_greedyParts hg)) hi
      have hlinked : p.Linked cs.get g.1 i :=
        .inl ⟨hlt, isSome_nameScore?_of_mem_greedyParts hg hi⟩
      exact ((home_eq_iff_reachable h).mpr (.single hlinked)).symm

/-- A name recorded in two towns, one that shares a town with it, and one recorded nowhere. -/
def sharedTown : List Cluster :=
  [.ofMembers "marie anne colin"
     [("Marie Anne Colin", some "Nancy"), ("marie anne colin", some "Metz")],
   .ofMembers "marie colin" [("Marie Colin", some "Metz"), ("marie colin", some "Toul")],
   .ofMembers "marie colin jeanne" [("Marie Colin Jeanne", none)]]

/-- The greedy clusters of names from one town lie in the transitive ones. -/
theorem refines_mergeGreedy_sharedTown :
    Compatible sharedTown ∧
      Refines (mergeGreedy ⟨95.0, 90.0, 5⟩ sharedTown).clusters
        (mergeTransitive ⟨95.0, 90.0, 5⟩ sharedTown).clusters := by
  have hcompatible : Compatible sharedTown := by decide +kernel
  exact ⟨hcompatible, refines_mergeGreedy _ _ hcompatible⟩

example :
    (mergeGreedy ⟨95.0, 90.0, 5⟩ sharedTown).clusters.map (·.key) =
        ["marie anne colin", "marie colin jeanne"] ∧
      (mergeTransitive ⟨95.0, 90.0, 5⟩ sharedTown).clusters.map (·.key) =
        ["marie anne colin"] := by
  decide +kernel

/-- No threshold of a policy is below that of another one. -/
structure AtLeastAsStrict (q p : MergePolicy) : Prop where
  mergeThreshold : p.mergeThreshold ≤ q.mergeThreshold
  givenNameThreshold : p.givenNameThreshold ≤ q.givenNameThreshold
  minKeyLength : p.minKeyLength ≤ q.minKeyLength

/-- Keys similar to a stricter policy are similar to a laxer one. -/
theorem SimilarKeys.relax {p q : MergePolicy} (hpq : q.AtLeastAsStrict p) {a b : String}
    (h : q.SimilarKeys a b) : p.SimilarKeys a b where
  differ := h.differ
  longLeft := hpq.minKeyLength.trans h.longLeft
  longRight := hpq.minKeyLength.trans h.longRight
  wordsSimilar hlt := h.wordsSimilar (Decimal.lt_of_lt_of_le hlt hpq.mergeThreshold)
  namedLeft := h.namedLeft
  namedRight := h.namedRight
  givenNamesSimilar hlt :=
    h.givenNamesSimilar (Decimal.lt_of_lt_of_le hlt hpq.givenNameThreshold)

/-- Clusters linked by a stricter policy are linked by a laxer one. -/
theorem Linked.relax {p q : MergePolicy} (hpq : q.AtLeastAsStrict p) {n : Nat}
    {f : Fin n → Cluster} {i j : Fin n} (h : q.Linked f i j) : p.Linked f i j := by
  have haccepted : ∀ {i j}, q.Accepted f i j → p.Accepted f i j := by
    rintro i j ⟨hij, hscore⟩
    exact ⟨hij, isSome_nameScore?_iff.mpr ((isSome_nameScore?_iff.mp hscore).relax hpq)⟩
  exact h.imp haccepted haccepted

section Parts

variable (p cs)

theorem clusters_eq_map_parts :
    (p.mergeTransitive cs).clusters =
      (p.parts cs).map fun g => (gather (g.2.map cs.get)).getD (.empty "") := by
  have h := congrArg (List.map (·.getD (.empty ""))) (p.map_some_clusters_mergeTransitive cs)
  simpa only [List.map_map, Function.comp_def, Option.getD_some, List.map_id'] using h

variable {p cs} {g : Fin cs.length × List (Fin cs.length)} (h : g ∈ p.parts cs)
include h

theorem members_part :
    ((gather (g.2.map cs.get)).getD (.empty "")).members =
      g.2.flatMap fun i => (cs.get i).members := by
  obtain ⟨c, hc⟩ := exists_gather (l := g.2.map cs.get) (by simpa using group_ne_nil h)
  rw [hc, Option.getD_some, members_gather hc, List.flatMap_map]

theorem home_part {i : Fin cs.length} (hi : i ∈ g.2) : p.home cs i = p.home cs g.1 := by
  obtain ⟨j, -, hj⟩ := mem_labels.mp (label_mem_labels h)
  rw [group_eq_filter h] at hi
  have hroot : (p.sets cs).root i = g.1 := by simpa using hi
  rw [home_eq_iff, hroot, ← hj, DisjointSets.root_root]

end Parts

/-- Transitive merging joins what it gathers under a stricter policy. -/
theorem refines_of_atLeastAsStrict (q p : MergePolicy) (hpq : q.AtLeastAsStrict p)
    (cs : List Cluster) (h : Compatible cs) :
    Refines (q.mergeTransitive cs).clusters (p.mergeTransitive cs).clusters := by
  rw [q.clusters_eq_map_parts]
  apply refines_of_parts (·.2) (fun g => p.home cs g.1)
  · exact groupBy_perm _ _
  · intro g hg
    rw [group_eq_filter hg]
    exact List.filter_sublist
  · intro g hg
    exact members_part hg
  · intro g hg i hi
    have hreach : Relation.ReflTransGen (q.Linked cs.get) i g.1 :=
      q.reachable_of_home_eq (home_part hg hi)
    exact (home_eq_iff_reachable h).mpr
      (Relation.ReflTransGen.mono (fun _ _ hlinked => hlinked.relax hpq) _ _ hreach)

/-- The clusters of a stricter policy lie in those of a laxer one. -/
theorem refines_of_atLeastAsStrict_sharedTown :
    AtLeastAsStrict ⟨95.0, 90.0, 12⟩ ⟨90.0, 90.0, 5⟩ ∧ Compatible sharedTown ∧
      Refines (mergeTransitive ⟨95.0, 90.0, 12⟩ sharedTown).clusters
        (mergeTransitive ⟨90.0, 90.0, 5⟩ sharedTown).clusters := by
  have hstrict : AtLeastAsStrict ⟨95.0, 90.0, 12⟩ ⟨90.0, 90.0, 5⟩ :=
    ⟨by decide +kernel, by decide +kernel, by decide⟩
  have hcompatible : Compatible sharedTown := by decide +kernel
  exact ⟨hstrict, hcompatible, refines_of_atLeastAsStrict _ _ hstrict _ hcompatible⟩

end MergePolicy

end Prosopography
