import Prosopography.Proofs.Cluster.Components
import Mathlib.Data.List.Pairwise

/-!
# Merging where places agree

Clusters no two of which are told apart by their places, be it one place each or
several, never meet a refusal. Their components are then the connected components
of the accepted pairs.
-/

namespace Prosopography

namespace Cluster

/-- No two clusters of a list are told apart by their places. -/
def Compatible (cs : List Cluster) : Prop := cs.Pairwise fun c d => c.compatible d = true

instance (cs : List Cluster) : Decidable (Compatible cs) :=
  inferInstanceAs (Decidable (cs.Pairwise _))

theorem Compatible.get {cs : List Cluster} (h : Compatible cs) (i j : Fin cs.length) :
    (cs.get i).compatible (cs.get j) = true := by
  rcases lt_trichotomy i j with hij | rfl | hji
  · exact List.pairwise_iff_get.mp h i j hij
  · exact compatible_self _
  · rw [compatible_comm]
    exact List.pairwise_iff_get.mp h j i hji

end Cluster

namespace MergePolicy

variable {p : MergePolicy}

section Joined

variable {n : Nat} {f : Fin n → Cluster} (hf : ∀ i j, (f i).compatible (f j) = true)
include hf

/-- Components of compatible clusters have no places that disagree. -/
theorem Joined.placesAgree {done : List (Fin n × Fin n)} {s : DisjointSets n}
    (h : p.Joined f done s) (i j : Fin n) :
    Cluster.placesAgree (s.placesOf i) (s.placesOf j) = true := by
  rw [Cluster.placesAgree_iff]
  by_cases hi : (s.placesOf i).toList = []
  · exact .inl hi
  by_cases hj : (s.placesOf j).toList = []
  · exact .inr (.inl hj)
  obtain ⟨x, hx⟩ := List.exists_mem_of_ne_nil _ hi
  obtain ⟨y, hy⟩ := List.exists_mem_of_ne_nil _ hj
  obtain ⟨k, hk, hkx⟩ := (h.mem_placesOf i x).mp hx
  obtain ⟨l, hl, hly⟩ := (h.mem_placesOf j y).mp hy
  -- Both components have a cluster with a place, and these two clusters share one.
  rcases Cluster.placesAgree_iff.mp (hf k l) with hnil | hnil | ⟨z, hzk, hzl⟩
  · simp [hnil] at hkx
  · simp [hnil] at hly
  · exact .inr (.inr ⟨z, (h.mem_placesOf i z).mpr ⟨k, hk, hzk⟩,
      (h.mem_placesOf j z).mpr ⟨l, hl, hzl⟩⟩)

/-- Where all places agree, a union joins its pair. -/
theorem root_union_eq {done : List (Fin n × Fin n)} {s : DisjointSets n}
    (h : p.Joined f done s) (i j : Fin n) : (s.union i j).1.root i = (s.union i j).1.root j := by
  cases hres : (s.union i j).2 with
  | true => exact s.root_union_eq_root_union hres
  | false =>
      obtain ⟨hroot, -⟩ := s.union_refused hres
      rw [hroot, hroot]
      by_contra hne
      have hjoins := (s.union_snd i j).mpr ⟨hne, h.placesAgree hf i j⟩
      simp [hres] at hjoins

end Joined

/-- Every accepted pair of compatible clusters ends in one component. -/
theorem root_eq_of_accepted {n : Nat} {cs : Vector Cluster n}
    (hcs : ∀ i j : Fin n, (cs.get i).compatible (cs.get j) = true) {i j : Fin n}
    (h : p.Accepted cs.get i j) : (p.joinAll cs).1.root i = (p.joinAll cs).1.root j := by
  have hall : p.Joined cs.get (pairs n) (p.joinAll cs).1 ∧ ∀ i j, (i, j) ∈ pairs n →
      p.Accepted cs.get i j → (p.joinAll cs).1.root i = (p.joinAll cs).1.root j := by
    apply joinAll_induction (motive := fun done s => p.Joined cs.get done s ∧
      ∀ i j, (i, j) ∈ done → p.Accepted cs.get i j → s.root i = s.root j)
    · exact ⟨.singletons _ (get_map_places cs), fun _ _ h => absurd h List.not_mem_nil⟩
    · rintro done s i j hacc ⟨hjoined, hone⟩
      refine ⟨hjoined.settle fun hacc' => absurd hacc' hacc, ?_⟩
      intro k l hkl hacc'
      rcases List.mem_append.mp hkl with hdone | hnew
      · exact hone k l hdone hacc'
      · obtain ⟨rfl, rfl⟩ : k = i ∧ l = j := by simpa using hnew
        exact absurd hacc' hacc
    · rintro done s i j hacc ⟨hjoined, hone⟩
      refine ⟨hjoined.step hacc, ?_⟩
      intro k l hkl hacc'
      rcases List.mem_append.mp hkl with hdone | hnew
      · exact s.root_union_congr (hone k l hdone hacc')
      · obtain ⟨rfl, rfl⟩ : k = i ∧ l = j := by simpa using hnew
        exact root_union_eq hcs hjoined k l
  exact hall.2 i j (mem_pairs.mpr h.1) h

/-- Compatible clusters end in one merged cluster exactly if accepted pairs connect them. -/
theorem home_eq_iff_reachable {cs : List Cluster} (hcs : Cluster.Compatible cs)
    {i j : Fin cs.length} :
    p.home cs i = p.home cs j ↔ Relation.ReflTransGen (p.Linked cs.get) i j := by
  refine ⟨p.reachable_of_home_eq, ?_⟩
  have hlinked : ∀ {k l}, p.Linked cs.get k l → p.home cs k = p.home cs l := by
    rintro k l (hacc | hacc)
    · exact home_eq_iff.mpr (root_eq_of_accepted hcs.get hacc)
    · exact home_eq_iff.mpr (root_eq_of_accepted hcs.get hacc).symm
  intro h
  induction h with
  | refl => rfl
  | tail _ hkl ih => exact ih.trans (hlinked hkl)

end MergePolicy

end Prosopography
