import Prosopography.Proofs.Cluster.Survivors
import Mathlib.Data.List.Pairwise

/-!
# Merging what is merged

Merging looks at every pair once, and places grow while it does. Where each cluster is at one
place at most, a pair that was refused stays refused: what kept it apart is still there at the
end. So nothing is left to merge, and a second merge changes nothing.
-/

namespace Prosopography

namespace Cluster

/-- A cluster under the same key, at the same places and perhaps at more. -/
structure Widens (d c : Cluster) : Prop where
  key : d.key = c.key
  places : ∀ x ∈ c.places.toList, x ∈ d.places.toList

theorem Widens.refl (c : Cluster) : c.Widens c := ⟨rfl, fun _ hx => hx⟩

theorem Widens.absorb {c d : Cluster} (h : d.Widens c) (e : Cluster) : (d.absorb e).Widens c where
  key := h.key
  places x hx := mem_places_absorb.mpr (.inl (h.places x hx))

/-- Places that agree in the end agreed before. -/
theorem Widens.compatible {c c' d d' : Cluster} (hc : c'.Widens c) (hd : d'.Widens d)
    (hc' : c'.AtOnePlace) (hd' : d'.AtOnePlace) (h : c'.compatible d' = true) :
    c.compatible d = true := by
  rw [Cluster.compatible, placesAgree_iff]
  by_cases hcnil : c.places.toList = []
  · exact .inl hcnil
  by_cases hdnil : d.places.toList = []
  · exact .inr (.inl hdnil)
  obtain ⟨x, hx⟩ := List.exists_mem_of_ne_nil _ hcnil
  obtain ⟨y, hy⟩ := List.exists_mem_of_ne_nil _ hdnil
  obtain rfl : x = y := eq_of_placesAgree hc' hd' h (hc.places x hx) (hd.places y hy)
  exact .inr (.inr ⟨x, hx, hy⟩)

end Cluster

open Cluster

namespace MergePolicy

variable {p : MergePolicy} {cs : List Cluster}

/-- A pair is refused exactly if its keys are not similar or its places are in conflict. -/
theorem accepts?_eq_none_iff {c d : Cluster} :
    p.accepts? c d = none ↔ ¬ (p.SimilarKeys c.key d.key ∧ c.compatible d = true) := by
  rw [← isSome_accepts?_iff, Option.not_isSome_iff_eq_none]

/-- A refusal stands, however much both sides have grown, if each is still at one place. -/
theorem refused_of_widens {c c' d d' : Cluster} (h : p.accepts? c d = none) (hc : c'.Widens c)
    (hd : d'.Widens d) (hc' : c'.AtOnePlace) (hd' : d'.AtOnePlace) :
    p.accepts? c' d' = none := by
  rw [accepts?_eq_none_iff] at h ⊢
  rw [hc.key, hd.key]
  exact fun ⟨hkeys, hplaces⟩ => h ⟨hkeys, hc.compatible hd hc' hd' hplaces⟩

variable (p) in
/-- The policy accepts no two clusters of a list. -/
def Apart (cs : List Cluster) : Prop := cs.Pairwise fun c d => p.accepts? c d = none

section Greedy

/-- A sweep only adds places to its target. -/
theorem widens_sweep (target : Cluster) (cs : List Cluster) :
    (p.sweep target cs).target.Widens target :=
  sweep_target (P := fun _ => True) (Q := (Widens · target)) (fun _ d hc _ _ => hc.absorb d)
    (.refl target) fun _ _ => trivial

/-- Accepted clusters of one place each are a cluster of one place. -/
theorem atOnePlace_of_accepts? (c d : Cluster) (hc : c.AtOnePlace) (hd : d.AtOnePlace)
    (h : (p.accepts? c d).isSome = true) : (c.absorb d).AtOnePlace :=
  hc.absorb hd (isSome_accepts?_iff.mp h).2

theorem atOnePlace_sweep {target : Cluster} (htarget : target.AtOnePlace)
    (h : ∀ c ∈ cs, c.AtOnePlace) : (p.sweep target cs).target.AtOnePlace :=
  sweep_target atOnePlace_of_accepts? htarget h

/-- What a target has left it would leave again. -/
theorem refused_of_mem_left {target : Cluster} (htarget : target.AtOnePlace)
    (h : ∀ c ∈ cs, c.AtOnePlace) {d : Cluster} (hd : d ∈ (p.sweep target cs).left) :
    p.accepts? (p.sweep target cs).target d = none := by
  induction cs generalizing target with
  | nil => simp [sweep] at hd
  | cons c rest ih =>
      obtain ⟨hc, hrest⟩ := List.forall_mem_cons.mp h
      rw [sweep] at hd ⊢
      cases hscore : p.accepts? target c with
      | some score =>
          have haccepted : (p.accepts? target c).isSome = true := by rw [hscore, Option.isSome_some]
          rw [hscore] at hd
          exact ih (atOnePlace_of_accepts? target c htarget hc haccepted) hrest hd
      | none =>
          rw [hscore] at hd
          rcases List.mem_cons.mp hd with rfl | hd
          · exact refused_of_widens hscore (widens_sweep target rest) (.refl d)
              (atOnePlace_sweep htarget hrest) hc
          · exact ih htarget hrest hd

/-- What the greedy strategy leaves does not merge further. -/
theorem apart_mergeGreedy (h : ∀ c ∈ cs, c.AtOnePlace) : p.Apart (p.mergeGreedy cs).clusters := by
  induction cs using mergeGreedy.induct p with
  | case1 =>
      rw [mergeGreedy]
      exact .nil
  | case2 c rest s ih =>
      obtain ⟨hc, hrest⟩ := List.forall_mem_cons.mp h
      have htarget : s.target.AtOnePlace := atOnePlace_sweep hc hrest
      have hleft : ∀ d ∈ s.left, d.AtOnePlace ∧ p.accepts? s.target d = none := fun d hd =>
        ⟨hrest d ((p.left_sweep_sublist c rest).subset hd), refused_of_mem_left hc hrest hd⟩
      rw [mergeGreedy]
      refine List.pairwise_cons.mpr ⟨fun d hd => ?_, ih fun d hd => (hleft d hd).1⟩
      -- A later cluster is one that the target has left, with others absorbed.
      refine (mergeGreedy_forall (P := fun d => d.AtOnePlace ∧ p.accepts? s.target d = none)
        (fun d e hd he hde => ?_) (fun _ hd => hd) hleft d hd).2
      have hde := atOnePlace_of_accepts? d e hd.1 he.1 hde
      exact ⟨hde, refused_of_widens hd.2 (.refl s.target) ((Widens.refl d).absorb e) htarget hde⟩

/-- A target that accepts nobody leaves all clusters as they are. -/
theorem sweep_of_refused {target : Cluster} (h : ∀ c ∈ cs, p.accepts? target c = none) :
    p.sweep target cs = ⟨target, cs, []⟩ := by
  induction cs with
  | nil => rfl
  | cons c rest ih =>
      obtain ⟨hc, hrest⟩ := List.forall_mem_cons.mp h
      rw [sweep, hc, ih hrest]

theorem mergeGreedy_of_apart (h : p.Apart cs) : p.mergeGreedy cs = ⟨cs, []⟩ := by
  induction cs with
  | nil => rw [mergeGreedy]
  | cons c rest ih =>
      obtain ⟨hc, hrest⟩ := List.pairwise_cons.mp h
      rw [mergeGreedy, sweep_of_refused hc]
      simp only [ih hrest, List.append_nil]

end Greedy

section Transitive

/-- Merged clusters stand in the order of the roots that they continue. -/
theorem lt_of_home_lt {i j : Fin cs.length} (hi : (p.sets cs).root i = i)
    (hj : (p.sets cs).root j = j) (h : p.home cs i < p.home cs j) : i < j := by
  have hsorted : (labels (p.sets cs).root (List.finRange _)).Pairwise (· < ·) := by
    rw [(WholeStars.finRange (p.sets cs)).labels_eq]
    exact (List.pairwise_lt_finRange _).filter _
  have hlt : ∀ m, (p.home cs m).val < (labels (p.sets cs).root (List.finRange _)).length :=
    fun m => List.idxOf_lt_length_of_mem (p.root_mem_labels cs m)
  have hroots := List.pairwise_iff_getElem.mp hsorted _ _ (hlt i) (hlt j) h
  simpa only [home, List.getElem_idxOf, hi, hj] using hroots

/-- What the transitive strategy leaves does not merge further. -/
theorem apart_mergeTransitive (h : ∀ c ∈ cs, c.AtOnePlace) :
    p.Apart (p.mergeTransitive cs).clusters := by
  refine List.pairwise_iff_get.mpr fun k l hkl => accepts?_eq_none_iff.mpr ?_
  rintro ⟨hkeys, hcompatible⟩
  obtain ⟨i, hi, rfl, hikey⟩ := p.exists_root_home cs k
  obtain ⟨j, hj, rfl, hjkey⟩ := p.exists_root_home cs l
  rw [hikey, hjkey] at hkeys
  -- The names of the two roots were accepted, so places kept their components apart.
  have haccepted : p.Accepted cs.get i j :=
    ⟨lt_of_home_lt hi hj hkl, isSome_nameScore?_iff.mpr hkeys⟩
  obtain ⟨x, hx, y, hy, hxy⟩ := p.inConflict_of_home_ne hkl.ne haccepted
  have hone : ∀ m, ((p.mergeTransitive cs).clusters.get m).AtOnePlace :=
    fun m => p.atOnePlace_mergeTransitive h (List.get_mem _ m)
  exact hxy (eq_of_placesAgree (hone _) (hone _) hcompatible hx hy)

/-- Pairs that are refused leave every position alone. -/
theorem joinAll_of_refused {n : Nat} (cs : Vector Cluster n)
    (h : ∀ i j : Fin n, i < j → p.accepts? (cs.get i) (cs.get j) = none) :
    (∀ k, (p.joinAll cs).1.root k = k) ∧ (p.joinAll cs).2 = [] := by
  have hall : (∀ k, (p.joinAll cs).1.root k = k) ∧
      (∀ k, (p.joinAll cs).1.placesOf k = (cs.get k).places) ∧ (p.joinAll cs).2 = [] := by
    apply joinAll_run cs (motive := fun _ state => (∀ k, state.1.root k = k) ∧
      (∀ k, state.1.placesOf k = (cs.get k).places) ∧ state.2 = [])
    · refine ⟨DisjointSets.root_singletons _, fun k => ?_, rfl⟩
      rw [DisjointSets.placesOf, DisjointSets.root_singletons, ← get_map_places]
      rfl
    · rintro done todo state i j hpairs ⟨hroot, hplaces, hlog⟩
      have hij : i < j := mem_pairs.mp (hpairs ▸ List.mem_append_right _ List.mem_cons_self)
      cases hscore : p.nameScore? (cs.get i).key (cs.get j).key with
      | none =>
          rw [joinPair_of_none hscore]
          exact ⟨hroot, hplaces, hlog⟩
      | some score =>
          have hkeys : p.SimilarKeys (cs.get i).key (cs.get j).key :=
            isSome_nameScore?_iff.mp (by simp [hscore])
          have hres : (state.1.union i j).2 = false := by
            rw [Bool.eq_false_iff, ne_eq, state.1.union_snd, hplaces, hplaces]
            exact fun hjoin => accepts?_eq_none_iff.mp (h i j hij) ⟨hkeys, hjoin.2⟩
          obtain ⟨hroot', hplaces'⟩ := state.1.union_refused hres
          rw [joinPair_of_some hscore, hres]
          exact ⟨fun k => (hroot' k).trans (hroot k), fun k => (hplaces' k).trans (hplaces k), hlog⟩
  exact ⟨hall.1, hall.2.2⟩

theorem mergeTransitive_of_apart (h : p.Apart cs) : p.mergeTransitive cs = ⟨cs, []⟩ := by
  obtain ⟨hroot, hlog⟩ := joinAll_of_refused (p := p) ⟨cs.toArray, List.size_toArray⟩
    (List.pairwise_iff_get.mp h)
  have hroots : (p.sets cs).root = id := funext hroot
  have hclusters : (p.mergeTransitive cs).clusters = cs := by
    have hlabels : ((List.finRange cs.length).map id).Nodup := by
      rw [List.map_id]
      exact List.nodup_finRange _
    rw [clusters_mergeTransitive, parts, hroots, groupBy_of_nodup hlabels, List.filterMap_map]
    calc
      (List.finRange cs.length).filterMap (fun i => gather ([i].map cs.get)) =
          (List.finRange cs.length).map cs.get := congrFun List.filterMap_eq_map' _
      _ = cs := List.map_get_finRange cs
  exact congrArg₂ Outcome.mk hclusters hlog

end Transitive

end MergePolicy

namespace Settings

variable (s : Settings)

/-- Neither strategy leaves clusters that would merge further. -/
theorem apart_merge {cs : List Cluster} (h : ∀ c ∈ cs, c.AtOnePlace) :
    s.policy.Apart (s.merge cs).clusters := by
  rw [merge]
  cases s.strategy with
  | greedy => exact MergePolicy.apart_mergeGreedy h
  | transitive => exact MergePolicy.apart_mergeTransitive h

/-- Either strategy leaves clusters as they are if none accepts another. -/
theorem merge_of_apart {cs : List Cluster} (h : s.policy.Apart cs) : s.merge cs = ⟨cs, []⟩ := by
  rw [merge]
  cases s.strategy with
  | greedy => exact MergePolicy.mergeGreedy_of_apart h
  | transitive => exact MergePolicy.mergeTransitive_of_apart h

/-- What is merged is merged for good: a second merge leaves every cluster as it is and logs
nothing. -/
theorem merge_merge (cs : List Cluster) (h : ∀ c ∈ cs, c.AtOnePlace) :
    s.merge (s.merge cs).clusters = ⟨(s.merge cs).clusters, []⟩ :=
  s.merge_of_apart (s.apart_merge h)

/-- Names of two towns do not merge further with either strategy. -/
theorem merge_merge_twoTowns :
    (∀ c ∈ MergePolicy.twoTowns, c.AtOnePlace) ∧
      (standard.merge (standard.merge MergePolicy.twoTowns).clusters =
        ⟨(standard.merge MergePolicy.twoTowns).clusters, []⟩) ∧
      (standardTransitive.merge (standardTransitive.merge MergePolicy.twoTowns).clusters =
        ⟨(standardTransitive.merge MergePolicy.twoTowns).clusters, []⟩) := by
  have hplaces : ∀ c ∈ MergePolicy.twoTowns, c.AtOnePlace := by decide +kernel
  exact ⟨hplaces, merge_merge standard _ hplaces, merge_merge standardTransitive _ hplaces⟩

/-- The second name is refused for its place before the third one, at both places, has come to
the first. -/
def bothTowns : List Cluster :=
  [.ofMembers "marie anne colin" [("Marie Anne Colin", some "Nancy")],
   .ofMembers "marie colin" [("Marie Colin", some "Metz")],
   .ofMembers "marie colin anne"
     [("Marie Colin Anne", some "Nancy"), ("marie colin anne", some "Metz")]]

-- Without one place for each cluster, a refusal need not stand.
example :
    (standard.merge bothTowns).clusters.map (·.key) = ["marie anne colin", "marie colin"] ∧
      (standard.merge (standard.merge bothTowns).clusters).clusters.map (·.key) =
        ["marie anne colin"] := by
  decide +kernel

end Settings

end Prosopography
