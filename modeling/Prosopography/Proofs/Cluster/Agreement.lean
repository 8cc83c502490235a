import Prosopography.Proofs.Cluster.Components
import Prosopography.Proofs.Cluster.Stars

/-!
# Where the strategies agree

Where acceptance does not chain, a sweep takes from the later clusters exactly those
that transitive merging joins to its target. So both strategies form the same clusters
and take the same decisions.
-/

namespace Prosopography

namespace MergePolicy

variable {p : MergePolicy} {n : Nat} {f : Fin n → Cluster}

theorem mem_places_absorbing {α : Type} {f : α → Cluster} {target : Cluster} {l : List α}
    {x : String} :
    x ∈ (absorbing f target l).places.toList ↔
      x ∈ target.places.toList ∨ ∃ a ∈ l, x ∈ (f a).places.toList := by
  simp [absorbing, mem_places_foldl_absorb]

/-- Positions in order, with every component whole or not at all. -/
structure WholeStars (s : DisjointSets n) (l : List (Fin n)) : Prop where
  sorted : l.Pairwise (· < ·)
  whole : ∀ i j, s.root i = s.root j → i ∈ l → j ∈ l

namespace WholeStars

variable {s : DisjointSets n} {a : Fin n} {l rest : List (Fin n)}

theorem finRange (s : DisjointSets n) : WholeStars s (List.finRange n) :=
  ⟨List.pairwise_lt_finRange n, fun _ j _ _ => List.mem_finRange j⟩

theorem lt_of_mem (h : WholeStars s (a :: rest)) {j : Fin n} (hj : j ∈ rest) : a < j :=
  List.rel_of_pairwise_cons h.sorted hj

theorem root_head (h : WholeStars s (a :: rest)) : s.root a = a := by
  have hmem : s.root a ∈ a :: rest :=
    h.whole a _ (s.root_root a).symm List.mem_cons_self
  rcases List.mem_cons.mp hmem with e | hrest
  · exact e
  · exact absurd (h.lt_of_mem hrest) (s.root_le a).not_gt

theorem le_root (h : WholeStars s (a :: rest)) {j : Fin n} (hj : j ∈ rest) : a ≤ s.root j := by
  have hmem : s.root j ∈ a :: rest :=
    h.whole j _ (s.root_root j).symm (List.mem_cons_of_mem a hj)
  rcases List.mem_cons.mp hmem with e | hrest
  · exact e.ge
  · exact (h.lt_of_mem hrest).le

/-- What is left once the star of the first position is taken out. -/
theorem filter (h : WholeStars s (a :: rest)) :
    WholeStars s (rest.filter (s.root · != a)) where
  sorted := (List.pairwise_cons.mp h.sorted).2.filter _
  whole i j e hi := by
    obtain ⟨hi, hia⟩ := List.mem_filter.mp hi
    have hja : s.root j ≠ a := by simpa [e] using hia
    refine List.mem_filter.mpr ⟨?_, by simpa using hja⟩
    rcases List.mem_cons.mp (h.whole i j e (List.mem_cons_of_mem a hi)) with rfl | hj
    · exact absurd h.root_head hja
    · exact hj

theorem labels_eq (h : WholeStars s l) : labels s.root l = l.filter fun i => s.root i == i := by
  induction l using groupBy_induction s.root with
  | nil => rw [labels, groupBy_nil, List.map_nil, List.filter_nil]
  | cons a rest ih =>
      have hhead : s.root a = a := h.root_head
      rw [hhead] at ih
      rw [labels, groupBy_cons, List.map_cons, hhead, ← labels, ih h.filter, List.filter_filter,
        List.filter_cons_of_pos (by rw [hhead]; exact BEq.rfl)]
      congr 1
      apply List.filter_congr
      intro j hj
      have hne : j ≠ a := (h.lt_of_mem hj).ne'
      by_cases hroot : s.root j = j
      · simp [hroot, hne]
      · simp [hroot]

end WholeStars

theorem exists_root_of_mem_places {s : DisjointSets n} {a : Fin n} (ha : s.root a = a)
    {before : List (Fin n)} {x : String}
    (hx : x ∈ (absorbing f (f a) (before.filter (s.root · == a))).places.toList) :
    ∃ k, s.root k = a ∧ x ∈ (f k).places.toList := by
  rcases mem_places_absorbing.mp hx with hx | ⟨k, hk, hx⟩
  · exact ⟨a, ha, hx⟩
  · exact ⟨k, by simpa using (List.mem_filter.mp hk).2, hx⟩

/-- What the first position of a list has absorbed when it comes to `j` holds the places of all
earlier positions of its star. -/
theorem WholeStars.mem_places {s : DisjointSets n} {a j k : Fin n} {before after : List (Fin n)}
    (h : WholeStars s (a :: (before ++ j :: after))) (hkj : k < j) (hk : s.root k = a) {x : String}
    (hx : x ∈ (f k).places.toList) :
    x ∈ (absorbing f (f a) (before.filter (s.root · == a))).places.toList := by
  have hmem : k ∈ a :: (before ++ j :: after) :=
    h.whole a k (h.root_head.trans hk.symm) List.mem_cons_self
  rw [mem_places_absorbing]
  rcases List.mem_cons.mp hmem with rfl | hmem
  · exact .inl hx
  · rcases List.mem_append.mp hmem with hbefore | hafter
    · exact .inr ⟨k, List.mem_filter.mpr ⟨hbefore, by simpa using hk⟩, hx⟩
    · have hsorted := (List.pairwise_append.mp (List.pairwise_cons.mp h.sorted).2).2.1
      rcases List.mem_cons.mp hafter with rfl | hafter
      · exact absurd rfl hkj.ne
      · exact absurd (List.rel_of_pairwise_cons hsorted hafter) hkj.asymm

/-- When the sweep reaches `j`, its target has the places of the earlier members of its star. -/
theorem WholeStars.mem_places_iff {s : DisjointSets n} {a j : Fin n} {before after : List (Fin n)}
    (h : WholeStars s (a :: (before ++ j :: after))) {x : String} :
    x ∈ (absorbing f (f a) (before.filter (s.root · == a))).places.toList ↔
      ∃ k, k < j ∧ s.root k = a ∧ x ∈ (f k).places.toList := by
  constructor
  · intro hx
    rcases mem_places_absorbing.mp hx with hx | ⟨k, hk, hx⟩
    · exact ⟨a, h.lt_of_mem (List.mem_append_right _ List.mem_cons_self), h.root_head, hx⟩
    · obtain ⟨hk, hroot⟩ := List.mem_filter.mp hk
      have hbefore := (List.pairwise_append.mp (List.pairwise_cons.mp h.sorted).2).2.2
      exact ⟨k, hbefore k hk j List.mem_cons_self, by simpa using hroot, hx⟩
  · rintro ⟨k, hkj, hk, hx⟩
    exact h.mem_places hkj hk hx

variable {state : DisjointSets n × Log}

/-- The decisions of a row are about the star of its position. -/
theorem Stars.log_eq (h : p.Stars f (pairs n) state) :
    state.2 = (labels state.1.root (List.finRange n)).flatMap fun i =>
      ((List.finRange n).filter fun j => i < j ∧ state.1.root j = i).filterMap fun j =>
        p.decision? (f i).key (f j).key := by
  have hrow : ∀ i, ((List.finRange n).filter (i < ·)).filterMap (fun j =>
        if state.1.root j = i then p.decision? (f i).key (f j).key else none) =
      if state.1.root i == i then
        ((List.finRange n).filter fun j => i < j ∧ state.1.root j = i).filterMap fun j =>
          p.decision? (f i).key (f j).key
      else [] := by
    intro i
    split
    · simp only [List.filterMap_filter, decide_eq_true_eq, ite_and]
    · rename_i hi
      -- A position that is no root has nobody joined to it.
      rw [List.filterMap_eq_nil_iff]
      intro j _
      rw [if_neg]
      rintro rfl
      exact hi (by rw [state.1.root_root]; exact BEq.rfl)
  calc
    state.2 = (List.finRange n).flatMap fun i =>
        ((List.finRange n).filter (i < ·)).filterMap fun j =>
          if state.1.root j = i then p.decision? (f i).key (f j).key else none := by
      rw [h.log, pairs, List.filterMap_flatMap]
      simp only [List.filterMap_map, Function.comp_def]
    _ = _ := by
      rw [(WholeStars.finRange state.1).labels_eq, flatMap_filter]
      exact List.flatMap_congr fun i _ => hrow i

variable (p f) in
/-- A first position that has absorbed the earlier members of its star accepts the next position
exactly if this is a member, too. -/
def SweepsStars (s : DisjointSets n) : Prop :=
  ∀ a before j after, WholeStars s (a :: (before ++ j :: after)) →
    ((p.accepts? (absorbing f (f a) (before.filter (s.root · == a))) (f j)).isSome = true ↔
      s.root j = a)

/-- Greedy parts are components, and their first elements the roots. -/
theorem SweepsStars.greedyParts_eq {s : DisjointSets n} (h : p.SweepsStars f s)
    {l : List (Fin n)} (hl : WholeStars s l) :
    (p.greedyParts f l).map (fun g => (g.1, g.1 :: g.2)) = groupBy s.root l := by
  induction l using greedyParts.induct p f with
  | case1 => rw [greedyParts, groupBy_nil, List.map_nil]
  | case2 a rest ih =>
      have haccepts : ∀ before j after, rest = before ++ j :: after →
          (p.accepts? (absorbing f (f a) (before.filter (s.root · == a))) (f j)).isSome =
            (s.root j == a) := by
        intro before j after hrest
        subst hrest
        rw [Bool.eq_iff_iff, beq_iff_eq]
        exact h a before j after hl
      obtain ⟨htaken, hspared⟩ := taken_spared_eq_filter p f haccepts
      rw [greedyParts, groupBy_cons, List.map_cons, htaken, hl.root_head]
      rw [hspared] at ih ⊢
      rw [ih hl.filter]
      rfl

/-- The parts and the decisions of a sweep are those of the stars. -/
theorem SweepsStars.greedyLog_eq (h : p.SweepsStars f state.1)
    (hstars : p.Stars f (pairs n) state) :
    (p.greedyParts f (List.finRange n)).flatMap (fun g => g.2.filterMap fun j =>
      p.decision? (f g.1).key (f j).key) = state.2 := by
  have hparts := h.greedyParts_eq (.finRange state.1)
  have hlabels : labels state.1.root (List.finRange n) =
      (p.greedyParts f (List.finRange n)).map (·.1) := by
    rw [labels, ← hparts, List.map_map]
    rfl
  rw [hstars.log_eq, hlabels, List.flatMap_map]
  apply List.flatMap_congr
  intro g hg
  have hgroup : g.1 :: g.2 = (List.finRange n).filter (state.1.root · == g.1) :=
    group_eq_filter (hparts ▸ List.mem_map_of_mem hg)
  have hsorted := (List.pairwise_lt_finRange n).sublist (sublist_of_mem_greedyParts hg)
  have hstar : g.2 = (List.finRange n).filter fun j => g.1 < j ∧ state.1.root j = g.1 := by
    calc
      g.2 = (g.1 :: g.2).filter (g.1 < ·) := by
        rw [List.filter_cons_of_neg (by simp)]
        apply (List.filter_eq_self.mpr _).symm
        intro j hj
        exact decide_eq_true (List.rel_of_pairwise_cons hsorted hj)
      _ = (List.finRange n).filter fun j => g.1 < j ∧ state.1.root j = g.1 := by
        rw [hgroup, List.filter_filter]
        simp only [Bool.decide_and, beq_eq_decide]
  rw [hstar]

section Sweep

variable (h : p.Starred f (pairs n) state) (hf : p.Cliques f)
include h

/-- Places of one component are one place. -/
theorem Starred.place_eq {i j k : Fin n} (hi : state.1.root i = k) (hj : state.1.root j = k)
    {x y : String} (hx : x ∈ (f i).places.toList) (hy : y ∈ (f j).places.toList) : x = y := by
  have hplaced : ∀ {m z}, state.1.root m = k → z ∈ (f m).places.toList →
      z ∈ (state.1.placesOf i).toList := by
    intro m z hm hz
    exact (h.joined.mem_placesOf i z).mpr ⟨m, hm.trans hi.symm, hz⟩
  exact SortedSet.size_le_one_iff.mp (h.onePlace i) x (hplaced hi hx) y (hplaced hj hy)

section Accept

variable {a j : Fin n} {before : List (Fin n)} (ha : state.1.root a = a)
include ha hf

/-- A target accepts what transitive merging has joined to it. -/
theorem Starred.accepts_of_root_eq (haj : a < j) (hj : state.1.root j = a) :
    (p.accepts? (absorbing f (f a) (before.filter (state.1.root · == a))) (f j)).isSome = true := by
  have hlinked : p.Linked f a j := h.linked hf (ha.trans hj.symm) haj.ne
  rw [isSome_accepts?_iff, key_absorbing]
  refine ⟨isSome_nameScore?_iff.mp (hlinked.accepted haj).2, ?_⟩
  rw [Cluster.compatible, Cluster.placesAgree_iff]
  by_cases hj' : (f j).places.toList = []
  · exact .inr (.inl hj')
  by_cases hnil : (absorbing f (f a) (before.filter (state.1.root · == a))).places.toList = []
  · exact .inl hnil
  obtain ⟨x, hx⟩ := List.exists_mem_of_ne_nil _ hnil
  obtain ⟨y, hy⟩ := List.exists_mem_of_ne_nil _ hj'
  obtain ⟨k, hk, hkx⟩ := exists_root_of_mem_places ha hx
  obtain rfl : x = y := h.place_eq hk hj hkx hy
  exact .inr (.inr ⟨x, hx, hy⟩)

end Accept

/-- What a target accepts from the rest of the list, transitive merging has joined to it. -/
theorem Starred.root_eq_of_accepts (hone : ∀ i, (f i).AtOnePlace) {a j : Fin n}
    {before after : List (Fin n)} (hl : WholeStars state.1 (a :: (before ++ j :: after)))
    (hacc : (p.accepts? (absorbing f (f a) (before.filter (state.1.root · == a)))
      (f j)).isSome = true) : state.1.root j = a := by
  have hmem : j ∈ before ++ j :: after := List.mem_append_right _ List.mem_cons_self
  have haj : a < j := hl.lt_of_mem hmem
  obtain ⟨hkeys, hcompatible⟩ := isSome_accepts?_iff.mp hacc
  rw [key_absorbing] at hkeys
  have haccepted : p.Accepted f a j := ⟨haj, isSome_nameScore?_iff.mpr hkeys⟩
  rcases h.refused a j (mem_pairs.mpr haj) haccepted hl.root_head with
    hj | hj | ⟨k, hkj, hk, hconflict⟩
  · exact hj
  · exact absurd (hl.le_root hmem) hj.not_ge
  · -- The place that stands against `j` is already among those of the target.
    obtain ⟨x, hx, y, hy, hxy⟩ := hconflict
    have hxa := hl.mem_places hkj hk hx
    rcases Cluster.placesAgree_iff.mp hcompatible with hnil | hnil | ⟨z, hza, hzj⟩
    · simp [hnil] at hxa
    · simp [hnil] at hy
    · obtain ⟨m, hm, hzm⟩ := exists_root_of_mem_places hl.root_head hza
      have hxz : x = z := h.place_eq hk hm hx hzm
      have hzy : z = y := Cluster.atOnePlace_iff.mp (hone j) z hzj y hy
      exact absurd (hxz.trans hzy) hxy

include hf in
/-- In a forest of stars the sweeps find the stars. -/
theorem Starred.sweepsStars (hone : ∀ i, (f i).AtOnePlace) : p.SweepsStars f state.1 := by
  intro a before j after hl
  constructor
  · exact h.root_eq_of_accepts hone hl
  · exact h.accepts_of_root_eq hf hl.root_head
      (hl.lt_of_mem (List.mem_append_right _ List.mem_cons_self))

include hf in
/-- The parts of the greedy strategy are the components of the transitive one. -/
theorem Starred.greedyParts_eq (hone : ∀ i, (f i).AtOnePlace) {l : List (Fin n)}
    (hl : WholeStars state.1 l) :
    (p.greedyParts f l).map (fun g => (g.1, g.1 :: g.2)) = groupBy state.1.root l :=
  (h.sweepsStars hf hone).greedyParts_eq hl

include hf in
/-- Both strategies log the same decisions. -/
theorem Starred.greedyLog_eq (hone : ∀ i, (f i).AtOnePlace) :
    (p.greedyParts f (List.finRange n)).flatMap (fun g => g.2.filterMap fun j =>
      p.decision? (f g.1).key (f j).key) = state.2 :=
  (h.sweepsStars hf hone).greedyLog_eq h.stars

end Sweep

/-- Both strategies return the same clusters and the same log where acceptance does not chain. -/
theorem mergeGreedy_eq_mergeTransitive (p : MergePolicy) (cs : List Cluster)
    (hplaces : ∀ c ∈ cs, c.AtOnePlace) (hcliques : p.Cliques cs.get) :
    p.mergeGreedy cs = p.mergeTransitive cs := by
  have hstar : p.Starred cs.get (pairs cs.length) (p.joinAll ⟨cs.toArray, List.size_toArray⟩) :=
    starred_joinAll ⟨cs.toArray, List.size_toArray⟩
      (fun i => hplaces _ (List.getElem_mem i.isLt)) hcliques
  have hone : ∀ i, (cs.get i).AtOnePlace := fun i => hplaces _ (List.get_mem cs i)
  have hgreedy := p.mergeGreedy_map cs.get (List.finRange cs.length)
  rw [List.map_get_finRange] at hgreedy
  have hclusters : (p.mergeGreedy cs).clusters = (p.mergeTransitive cs).clusters := by
    have hparts : p.parts cs =
        (p.greedyParts cs.get (List.finRange cs.length)).map fun g => (g.1, g.1 :: g.2) :=
      (hstar.greedyParts_eq hcliques hone (.finRange _)).symm
    have hgather : (fun g : Fin cs.length × List (Fin cs.length) => gather (g.2.map cs.get)) ∘
          (fun g => (g.1, g.1 :: g.2)) =
        some ∘ fun g : Fin cs.length × List (Fin cs.length) =>
          absorbing cs.get (cs.get g.1) g.2 := rfl
    rw [hgreedy, clusters_mergeTransitive, hparts, List.filterMap_map, hgather,
      List.filterMap_eq_map]
  have hlog : (p.mergeGreedy cs).log = (p.mergeTransitive cs).log := by
    rw [hgreedy]
    exact hstar.greedyLog_eq hcliques hone
  exact congrArg₂ Outcome.mk hclusters hlog

/-- Four similar names, two of them recorded at different places. -/
def colinFamily : List Cluster :=
  [.ofMembers "marie colin" [("Marie Colin", none)],
   .ofMembers "marie anne colin" [("Marie Anne Colin", some "Nancy")],
   .ofMembers "marie jeanne colin" [("Marie Jeanne Colin", some "Metz")],
   .ofMembers "marie colin anne" [("Marie Colin Anne", none)]]

/-- The two strategies agree on a family of names with a conflict of places. -/
theorem mergeGreedy_eq_mergeTransitive_colinFamily :
    (∀ c ∈ colinFamily, c.AtOnePlace) ∧ Cliques ⟨90.0, 90.0, 5⟩ colinFamily.get ∧
      mergeGreedy ⟨90.0, 90.0, 5⟩ colinFamily = mergeTransitive ⟨90.0, 90.0, 5⟩ colinFamily := by
  have hplaces : ∀ c ∈ colinFamily, c.AtOnePlace := by decide +kernel
  have hcliques : Cliques ⟨90.0, 90.0, 5⟩ colinFamily.get := by decide +kernel
  exact ⟨hplaces, hcliques, mergeGreedy_eq_mergeTransitive _ _ hplaces hcliques⟩

example : (mergeTransitive ⟨90.0, 90.0, 5⟩ colinFamily).clusters.map (·.members) =
    [["Marie Colin", "Marie Anne Colin", "Marie Colin Anne"], ["Marie Jeanne Colin"]] := by
  decide +kernel

end MergePolicy

end Prosopography
