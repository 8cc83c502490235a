import Prosopography.Proofs.Cluster.Joining
import Prosopography.Proofs.Cluster.Members
import Mathlib.Data.List.Nodup

/-!
# The meaning of transitive merging

A merged cluster is held together by accepted pairs, and accepted pairs end in
different clusters only if these are recorded at different places. Where no places
differ, the merged clusters are the connected components of the accepted pairs.
-/

namespace Prosopography

namespace MergePolicy

open scoped List

theorem members_foldl_absorb (rest : List Cluster) (c : Cluster) :
    (rest.foldl Cluster.absorb c).members = c.members ++ rest.flatMap (·.members) := by
  induction rest generalizing c with
  | nil => simp
  | cons d rest ih => simp [ih]

theorem mem_places_foldl_absorb {rest : List Cluster} {c : Cluster} {x : String} :
    x ∈ (rest.foldl Cluster.absorb c).places.toList ↔
      x ∈ c.places.toList ∨ ∃ d ∈ rest, x ∈ d.places.toList := by
  induction rest generalizing c with
  | nil => simp
  | cons d rest ih => simp [ih, or_assoc]

theorem exists_gather {l : List Cluster} (h : l ≠ []) : ∃ c, gather l = some c := by
  cases l with
  | nil => exact absurd rfl h
  | cons c rest => exact ⟨_, rfl⟩

/-- A gathered cluster has the members of all, in order. -/
theorem members_gather {l : List Cluster} {c : Cluster} (h : gather l = some c) :
    c.members = l.flatMap (·.members) := by
  cases l with
  | nil => simp [gather] at h
  | cons d rest =>
      obtain rfl := Option.some.inj h
      simp [members_foldl_absorb]

/-- A gathered cluster has the places of all. -/
theorem mem_places_gather {l : List Cluster} {c : Cluster} (h : gather l = some c) {x : String} :
    x ∈ c.places.toList ↔ ∃ d ∈ l, x ∈ d.places.toList := by
  cases l with
  | nil => simp [gather] at h
  | cons d rest =>
      obtain rfl := Option.some.inj h
      simp [mem_places_foldl_absorb]

theorem allMembers_gather (l : List Cluster) :
    Cluster.allMembers (gather l).toList = Cluster.allMembers l := by
  cases l with
  | nil => rfl
  | cons c rest => simp [gather, members_foldl_absorb, Cluster.allMembers]

/-- What clusters keep when they absorb each other, their gathering has. -/
theorem gather_induction {P : Cluster → Prop}
    (absorb : ∀ c d, P c → P d → P (c.absorb d)) {l : List Cluster} (h : ∀ c ∈ l, P c)
    {c : Cluster} (hc : gather l = some c) : P c := by
  cases l with
  | nil => simp [gather] at hc
  | cons d rest =>
      obtain rfl := Option.some.inj hc
      have hd : P d := h d List.mem_cons_self
      have hrest : ∀ c ∈ rest, P c := fun c hc => h c (List.mem_cons_of_mem d hc)
      clear h hc
      induction rest generalizing d with
      | nil => exact hd
      | cons e rest ih =>
          apply ih (d.absorb e)
          · exact absorb d e hd (hrest e List.mem_cons_self)
          · intro c hc
            exact hrest c (List.mem_cons_of_mem e hc)

variable (p : MergePolicy) (cs : List Cluster)

/-- The components of a list once all pairs are joined. -/
def sets : DisjointSets cs.length := (p.joinAll ⟨cs.toArray, List.size_toArray⟩).1

/-- The positions of a list by their components, in the order of their first positions. -/
def parts : List (Fin cs.length × List (Fin cs.length)) :=
  groupBy (p.sets cs).root (List.finRange cs.length)

/-- The forest at the end of the pass is joined by all pairs. -/
theorem joined_sets : p.Joined cs.get (pairs cs.length) (p.sets cs) :=
  p.joined_joinAll ⟨cs.toArray, List.size_toArray⟩

/-- Merging gathers the clusters of each component. -/
theorem clusters_mergeTransitive :
    (p.mergeTransitive cs).clusters =
      (p.parts cs).filterMap fun g => gather (g.2.map cs.get) := by
  have hzip : cs.zip ((List.finRange cs.length).map (p.sets cs).root) =
      (List.finRange cs.length).map fun i => (cs.get i, (p.sets cs).root i) := by
    calc
      cs.zip ((List.finRange cs.length).map (p.sets cs).root) =
          ((List.finRange cs.length).map cs.get).zip
            ((List.finRange cs.length).map (p.sets cs).root) :=
        congrArg (List.zip · _) (List.map_get_finRange cs).symm
      _ = (List.finRange cs.length).map fun i => (cs.get i, (p.sets cs).root i) :=
        List.zip_map'
  change ((groupBy (·.2) (cs.zip ((List.finRange cs.length).map (p.sets cs).root))).filterMap
    fun g => gather (g.2.map (·.1))) = _
  rw [hzip, groupBy_map, List.filterMap_map]
  simp only [Function.comp_def, List.map_map]
  rfl

/-- Transitive merging moves members from cluster to cluster and does nothing else to them. -/
theorem members_mergeTransitive_perm :
    Cluster.allMembers (p.mergeTransitive cs).clusters ~ Cluster.allMembers cs := by
  have hparts : Cluster.allMembers (p.mergeTransitive cs).clusters =
      ((p.parts cs).flatMap (·.2)).flatMap fun i => (cs.get i).members := by
    rw [clusters_mergeTransitive, List.filterMap_eq_flatMap_toList, Cluster.allMembers,
      List.flatMap_assoc, List.flatMap_assoc]
    apply List.flatMap_congr
    intro g _
    calc
      (gather (g.2.map cs.get)).toList.flatMap (·.members) =
          Cluster.allMembers (g.2.map cs.get) := allMembers_gather _
      _ = g.2.flatMap fun i => (cs.get i).members := List.flatMap_map ..
  calc
    Cluster.allMembers (p.mergeTransitive cs).clusters =
        ((p.parts cs).flatMap (·.2)).flatMap fun i => (cs.get i).members := hparts
    _ ~ (List.finRange cs.length).flatMap fun i => (cs.get i).members :=
      (groupBy_perm _ _).flatMap_right _
    _ = ((List.finRange cs.length).map cs.get).flatMap (·.members) := (List.flatMap_map ..).symm
    _ = Cluster.allMembers cs := by rw [List.map_get_finRange, Cluster.allMembers]

variable {cs} in
/-- What two clusters hand on to their union holds of all merged clusters. -/
theorem mergeTransitive_forall {P : Cluster → Prop}
    (absorb : ∀ c d, P c → P d → P (c.absorb d)) (h : ∀ c ∈ cs, P c) :
    ∀ c ∈ (p.mergeTransitive cs).clusters, P c := by
  intro c hc
  rw [clusters_mergeTransitive] at hc
  obtain ⟨g, -, hg⟩ := List.mem_filterMap.mp hc
  apply gather_induction absorb _ hg
  intro d hd
  obtain ⟨i, -, rfl⟩ := List.mem_map.mp hd
  exact h _ (List.get_mem cs i)

/-- Every part has its cluster, in the same order. -/
theorem map_some_clusters_mergeTransitive :
    (p.mergeTransitive cs).clusters.map some =
      (p.parts cs).map fun g => gather (g.2.map cs.get) := by
  rw [clusters_mergeTransitive, List.map_filterMap_some_eq_filter_map_isSome]
  apply List.filter_eq_self.mpr
  intro c hc
  obtain ⟨g, hg, rfl⟩ := List.mem_map.mp hc
  obtain ⟨d, hd⟩ := exists_gather (l := g.2.map cs.get) (by simpa using group_ne_nil hg)
  simp [hd]

theorem length_mergeTransitive :
    (p.mergeTransitive cs).clusters.length =
      (labels (p.sets cs).root (List.finRange _)).length := by
  have h := congrArg List.length (p.map_some_clusters_mergeTransitive cs)
  simpa [parts, labels] using h

theorem root_mem_labels (i : Fin cs.length) :
    (p.sets cs).root i ∈ labels (p.sets cs).root (List.finRange _) :=
  mem_labels.mpr ⟨i, List.mem_finRange i, rfl⟩

/-- The merged cluster in which a cluster ends. -/
def home (i : Fin cs.length) : Fin (p.mergeTransitive cs).clusters.length :=
  ⟨(labels (p.sets cs).root (List.finRange _)).idxOf ((p.sets cs).root i), by
    rw [length_mergeTransitive]
    exact List.idxOf_lt_length_of_mem (p.root_mem_labels cs i)⟩

variable {p cs}

theorem home_eq_iff {i j : Fin cs.length} :
    p.home cs i = p.home cs j ↔ (p.sets cs).root i = (p.sets cs).root j := by
  rw [home, home, Fin.mk.injEq]
  exact List.idxOf_inj (p.root_mem_labels cs i)

variable (p cs)

/-- Every merged cluster is the home of some cluster. -/
theorem home_surjective : Function.Surjective (p.home cs) := by
  intro k
  have hk : k.val < (labels (p.sets cs).root (List.finRange _)).length :=
    p.length_mergeTransitive cs ▸ k.isLt
  obtain ⟨i, -, hi⟩ := mem_labels.mp (List.getElem_mem hk)
  refine ⟨i, Fin.ext ?_⟩
  change (labels _ _).idxOf _ = _
  rw [hi]
  exact (nodup_labels _ _).idxOf_getElem _ hk

/-- A merged cluster is the first of those that end in it, after it has absorbed the others. -/
theorem gather_home (k : Fin (p.mergeTransitive cs).clusters.length) :
    gather (((List.finRange cs.length).filter (p.home cs · == k)).map cs.get) =
      some ((p.mergeTransitive cs).clusters.get k) := by
  obtain ⟨i, rfl⟩ := p.home_surjective cs k
  have hlabel : (labels (p.sets cs).root (List.finRange _))[(p.home cs i).val]? =
      some ((p.sets cs).root i) :=
    List.getElem?_eq_some_iff.mpr
      ⟨List.idxOf_lt_length_of_mem (p.root_mem_labels cs i), List.getElem_idxOf _⟩
  have hfilter : (List.finRange cs.length).filter (p.home cs · == p.home cs i) =
      (List.finRange cs.length).filter ((p.sets cs).root · == (p.sets cs).root i) := by
    apply List.filter_congr
    intro j _
    rw [Bool.eq_iff_iff, beq_iff_eq, beq_iff_eq, home_eq_iff]
  have hpart := congrArg (·[(p.home cs i).val]?) (p.map_some_clusters_mergeTransitive cs)
  simp only [parts, groupBy_eq_map_labels, List.getElem?_map, hlabel, Option.map_some,
    List.getElem?_eq_getElem (p.home cs i).isLt, Option.some.injEq] at hpart
  rw [hfilter]
  exact hpart.symm

/-- A merged cluster has the members of the clusters at home in it, in order. -/
theorem members_clusters (k : Fin (p.mergeTransitive cs).clusters.length) :
    ((p.mergeTransitive cs).clusters.get k).members =
      ((List.finRange cs.length).filter (p.home cs · == k)).flatMap fun i =>
        (cs.get i).members := by
  rw [members_gather (p.gather_home cs k), List.flatMap_map]

/-- A merged cluster has the places of the clusters at home in it. -/
theorem mem_places_clusters {k : Fin (p.mergeTransitive cs).clusters.length} {x : String} :
    x ∈ ((p.mergeTransitive cs).clusters.get k).places.toList ↔
      ∃ i, p.home cs i = k ∧ x ∈ (cs.get i).places.toList := by
  rw [mem_places_gather (p.gather_home cs k)]
  simp

/-- A merged cluster and its component carry the same places. -/
theorem mem_places_home {i : Fin cs.length} {x : String} :
    x ∈ ((p.mergeTransitive cs).clusters.get (p.home cs i)).places.toList ↔
      x ∈ ((p.sets cs).placesOf i).toList := by
  rw [mem_places_clusters, (p.joined_sets cs).mem_placesOf]
  simp only [home_eq_iff]

variable {cs}

/-- Merging brings no two places together. -/
theorem atOnePlace_mergeTransitive (h : ∀ c ∈ cs, c.AtOnePlace) {c : Cluster}
    (hc : c ∈ (p.mergeTransitive cs).clusters) : c.AtOnePlace := by
  obtain ⟨k, rfl⟩ := List.get_of_mem hc
  obtain ⟨i, rfl⟩ := p.home_surjective cs k
  have hi : ((p.sets cs).placesOf i).size ≤ 1 :=
    placesOf_joinAll_size_le (fun j => h _ (List.getElem_mem j.isLt)) i
  rw [Cluster.atOnePlace_iff]
  intro x hx y hy
  rw [mem_places_home] at hx hy
  exact SortedSet.size_le_one_iff.mp hi x hx y hy

/-- The clusters of a list sorted into merged clusters by their homes. -/
structure Components (p : MergePolicy) (cs out : List Cluster)
    (home : Fin cs.length → Fin out.length) : Prop where
  members : ∀ k, (out.get k).members =
    ((List.finRange cs.length).filter (home · == k)).flatMap fun i => (cs.get i).members
  places : ∀ k x, x ∈ (out.get k).places.toList ↔
    ∃ i, home i = k ∧ x ∈ (cs.get i).places.toList
  inhabited : ∀ k, ∃ i, home i = k
  /-- Clusters with one home are joined by accepted pairs that stay in this home. -/
  chained : ∀ i j, home i = home j → p.ChainWithin cs.get home i j
  /-- Only places keep an accepted pair apart. -/
  parted : ∀ i j, p.Accepted cs.get i j → home i ≠ home j →
    ∃ x y, (out.get (home i)).places.toList = [x] ∧ (out.get (home j)).places.toList = [y] ∧ x ≠ y
  /-- Where no places keep clusters apart, a home is a connected component. -/
  connected : ∀ i,
    (∀ k l, Relation.ReflTransGen (p.Linked cs.get) i k →
      Relation.ReflTransGen (p.Linked cs.get) i l →
        (cs.get k).compatible (cs.get l) = true) →
    ∀ j, home i = home j ↔ Relation.ReflTransGen (p.Linked cs.get) i j

section Parted

variable (h : ∀ c ∈ cs, c.AtOnePlace) {i j : Fin cs.length} (hne : p.home cs i ≠ p.home cs j)
include hne

/-- Accepted clusters with different homes have homes whose places are in conflict. -/
theorem inConflict_of_home_ne (hacc : p.Accepted cs.get i j) :
    Cluster.InConflict ((p.mergeTransitive cs).clusters.get (p.home cs i)).places
      ((p.mergeTransitive cs).clusters.get (p.home cs j)).places := by
  rcases (p.joined_sets cs).apart i j (mem_pairs.mpr hacc.1) hacc with e | ⟨x, hx, y, hy, hxy⟩
  · exact absurd (home_eq_iff.mpr e) hne
  · exact ⟨x, (p.mem_places_home cs).mpr hx, y, (p.mem_places_home cs).mpr hy, hxy⟩

include h

/-- Accepted clusters with different homes are parted by two single places. -/
theorem parted_of_accepted (hacc : p.Accepted cs.get i j) :
    ∃ x y, ((p.mergeTransitive cs).clusters.get (p.home cs i)).places.toList = [x] ∧
      ((p.mergeTransitive cs).clusters.get (p.home cs j)).places.toList = [y] ∧ x ≠ y := by
  obtain ⟨x, hx, y, hy, hxy⟩ := p.inConflict_of_home_ne hne hacc
  have hsingle : ∀ k, ((p.mergeTransitive cs).clusters.get k).places.size ≤ 1 :=
    fun k => p.atOnePlace_mergeTransitive h (List.get_mem _ k)
  exact ⟨x, y, SortedSet.toList_eq_singleton (hsingle _) hx,
    SortedSet.toList_eq_singleton (hsingle _) hy, hxy⟩

end Parted

/-- Clusters of one home are linked by a chain that does not leave it. -/
theorem chainWithin_of_home_eq {i j : Fin cs.length} (e : p.home cs i = p.home cs j) :
    p.ChainWithin cs.get (p.home cs) i j :=
  ((p.joined_sets cs).chained i j (home_eq_iff.mp e)).mono fun _ _ => home_eq_iff.mpr

/-- Clusters of one home are linked by a chain. -/
theorem reachable_of_home_eq {i j : Fin cs.length} (e : p.home cs i = p.home cs j) :
    Relation.ReflTransGen (p.Linked cs.get) i j :=
  Relation.ReflTransGen.mono (fun _ _ hstep => hstep.1) _ _ (p.chainWithin_of_home_eq e)

/-- Along a chain without conflicts the home stays the same. -/
theorem home_eq_of_linked (h : ∀ c ∈ cs, c.AtOnePlace) {i k l : Fin cs.length}
    (hcompatible : ∀ k l, Relation.ReflTransGen (p.Linked cs.get) i k →
      Relation.ReflTransGen (p.Linked cs.get) i l →
        (cs.get k).compatible (cs.get l) = true)
    (hik : Relation.ReflTransGen (p.Linked cs.get) i k) (hkl : p.Linked cs.get k l) :
    p.home cs k = p.home cs l := by
  by_contra hne
  have hconflict : Cluster.InConflict
      ((p.mergeTransitive cs).clusters.get (p.home cs k)).places
      ((p.mergeTransitive cs).clusters.get (p.home cs l)).places := by
    rcases hkl with hacc | hacc
    · exact p.inConflict_of_home_ne hne hacc
    · obtain ⟨y, hy, x, hx, hyx⟩ := p.inConflict_of_home_ne (Ne.symm hne) hacc
      exact ⟨x, hx, y, hy, Ne.symm hyx⟩
  obtain ⟨x, hx, y, hy, hxy⟩ := hconflict
  obtain ⟨a, ha, hax⟩ := (p.mem_places_clusters cs).mp hx
  obtain ⟨b, hb, hby⟩ := (p.mem_places_clusters cs).mp hy
  have hia := hik.trans (p.reachable_of_home_eq ha.symm)
  have hib := (hik.tail hkl).trans (p.reachable_of_home_eq hb.symm)
  have hone : ∀ m, (cs.get m).places.size ≤ 1 := fun m => h _ (List.get_mem cs m)
  exact hxy (Cluster.eq_of_placesAgree (hone a) (hone b) (hcompatible a b hia hib) hax hby)

/-- Transitive merging sorts clusters at one place into their components. -/
theorem components_mergeTransitive (cs : List Cluster) (h : ∀ c ∈ cs, c.AtOnePlace) :
    ∃ home, p.Components cs (p.mergeTransitive cs).clusters home := by
  refine ⟨p.home cs, ?_⟩
  constructor
  · exact p.members_clusters cs
  · intro k x
    exact p.mem_places_clusters cs
  · exact p.home_surjective cs
  · intro i j
    exact p.chainWithin_of_home_eq
  · intro i j hacc hne
    exact p.parted_of_accepted h hne hacc
  · intro i hcompatible j
    constructor
    · exact p.reachable_of_home_eq
    · intro hij
      induction hij with
      | refl => rfl
      | tail hik hkl ih => exact ih.trans (p.home_eq_of_linked h hcompatible hik hkl)

/-- Two persons of different towns and a name, recorded nowhere, that fits both. -/
def twoTowns : List Cluster :=
  [.ofMembers "marie anne colin" [("Marie Anne Colin", some "Nancy")],
   .ofMembers "marie colin" [("Marie Colin", none)],
   .ofMembers "marie colin jeanne" [("Marie Colin Jeanne", some "Metz")]]

/-- The components of names from two towns. -/
theorem components_twoTowns :
    (∀ c ∈ twoTowns, c.AtOnePlace) ∧
      ∃ home, Components ⟨95.0, 90.0, 5⟩ twoTowns
        (mergeTransitive ⟨95.0, 90.0, 5⟩ twoTowns).clusters home := by
  have hplaces : ∀ c ∈ twoTowns, c.AtOnePlace := by decide +kernel
  exact ⟨hplaces, components_mergeTransitive _ twoTowns hplaces⟩

example : (mergeTransitive ⟨95.0, 90.0, 5⟩ twoTowns).clusters.map (·.members) =
    [["Marie Anne Colin", "Marie Colin"], ["Marie Colin Jeanne"]] := by decide +kernel

end MergePolicy

end Prosopography
