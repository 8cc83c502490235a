import Prosopography.Cluster.Transitive
import Prosopography.Proofs.Cluster.DisjointSets
import Prosopography.Proofs.Cluster.Places
import Mathlib.Logic.Relation

/-!
# Joining accepted pairs

What holds of the components while pairs are joined one after the other: each is
held together by chains of accepted pairs, carries the places of its clusters, and
an accepted pair that was refused stays apart by two different places.
-/

namespace Prosopography.MergePolicy

variable (p : MergePolicy) {n : Nat}

/-- The names of two clusters, the earlier one first, may be merged. -/
def Accepted (f : Fin n → Cluster) (i j : Fin n) : Prop :=
  i < j ∧ (p.nameScore? (f i).key (f j).key).isSome = true

/-- Two clusters form an accepted pair in list order. -/
def Linked (f : Fin n → Cluster) (i j : Fin n) : Prop := p.Accepted f i j ∨ p.Accepted f j i

/-- A chain of accepted pairs, all of whose clusters have one label. -/
def ChainWithin {κ : Type} (f : Fin n → Cluster) (label : Fin n → κ) : Fin n → Fin n → Prop :=
  Relation.ReflTransGen fun i j => p.Linked f i j ∧ label i = label j

variable {p} {f : Fin n → Cluster} {κ : Type} {label : Fin n → κ}

theorem Linked.symm {i j : Fin n} (h : p.Linked f i j) : p.Linked f j i := Or.symm h

theorem ChainWithin.symm {i j : Fin n} (h : p.ChainWithin f label i j) :
    p.ChainWithin f label j i := by
  induction h with
  | refl => exact .refl
  | tail _ hstep ih => exact .head ⟨hstep.1.symm, hstep.2.symm⟩ ih

/-- A link between two positions of one label is a chain. -/
theorem ChainWithin.of_linked {i j : Fin n} (h : p.Linked f i j) (hl : label i = label j) :
    p.ChainWithin f label i j :=
  .single ⟨h, hl⟩

/-- Chains survive when classes only grow. -/
theorem ChainWithin.mono {κ' : Type} {label' : Fin n → κ'}
    (hl : ∀ i j, label i = label j → label' i = label' j) {i j : Fin n}
    (h : p.ChainWithin f label i j) : p.ChainWithin f label' i j :=
  Relation.ReflTransGen.mono (fun _ _ e => ⟨e.1, hl _ _ e.2⟩) _ _ h

variable (p) in
/-- The state of the components once the pairs of `done` have been looked at. -/
structure Joined (f : Fin n → Cluster) (done : List (Fin n × Fin n)) (s : DisjointSets n) :
    Prop where
  chained : ∀ i j, s.root i = s.root j → p.ChainWithin f s.root i j
  mem_placesOf : ∀ i x, x ∈ (s.placesOf i).toList ↔
    ∃ j, s.root j = s.root i ∧ x ∈ (f j).places.toList
  apart : ∀ i j, (i, j) ∈ done → p.Accepted f i j →
    s.root i = s.root j ∨ Cluster.InConflict (s.placesOf i) (s.placesOf j)

namespace Joined

variable {done : List (Fin n × Fin n)} {s : DisjointSets n}

/-- Before the pass no pair is joined. -/
theorem singletons (f : Fin n → Cluster) {places : Vector (SortedSet String) n}
    (hplaces : ∀ i : Fin n, places.get i = (f i).places) :
    p.Joined f [] (.singletons places) where
  chained i j h := by
    rw [DisjointSets.root_singletons, DisjointSets.root_singletons] at h
    rw [h]
    exact .refl
  mem_placesOf i x := by
    simpa only [hplaces] using DisjointSets.carries_singletons places i x
  apart _ _ h := absurd h List.not_mem_nil

/-- Neither roots nor places need to be told apart further than by their values. -/
theorem of_eq {t : DisjointSets n} (h : p.Joined f done s) (hroot : ∀ k, t.root k = s.root k)
    (hplaces : ∀ k, t.placesOf k = s.placesOf k) : p.Joined f done t := by
  have hfun : t.root = s.root := funext hroot
  refine ⟨?_, DisjointSets.Carries.of_eq h.mem_placesOf hroot hplaces, ?_⟩
  · rw [hfun]
    exact h.chained
  · intro i j hdone hacc
    rw [hplaces, hplaces, hfun]
    exact h.apart i j hdone hacc

section Union

variable {i j : Fin n} (h : p.Joined f done s) (hres : (s.union i j).2 = true)
include h hres

/-- Behind a union, positions of one root are linked by a chain within it. -/
theorem chained_union (hacc : p.Accepted f i j) (k l : Fin n)
    (e : (s.union i j).1.root k = (s.union i j).1.root l) :
    p.ChainWithin f (s.union i j).1.root k l := by
  have hgrow : ∀ k l, s.root k = s.root l → (s.union i j).1.root k = (s.union i j).1.root l :=
    fun _ _ => s.root_union_of_root_eq hres
  have hji : p.ChainWithin f (s.union i j).1.root j i :=
    .of_linked (.inr hacc) ((s.root_union_eq_iff hres j i).mpr (.inr ⟨.inr rfl, .inl rfl⟩))
  have hreach : ∀ k, s.Meets i j k → p.ChainWithin f (s.union i j).1.root k i := by
    rintro k (e | e)
    · exact (h.chained k i e).mono hgrow
    · exact ((h.chained k j e).mono hgrow).trans hji
  rcases (s.root_union_eq_iff hres k l).mp e with e | ⟨hk, hl⟩
  · exact (h.chained k l e).mono hgrow
  · exact (hreach k hk).trans (hreach l hl).symm

/-- One pair further, the forest is still joined by the accepted pairs. -/
theorem union (hacc : p.Accepted f i j) : p.Joined f done (s.union i j).1 where
  chained := h.chained_union hres hacc
  mem_placesOf := DisjointSets.Carries.union h.mem_placesOf hres
  apart k l hdone hkl := by
    rcases h.apart k l hdone hkl with e | ⟨x, hx, y, hy, hne⟩
    · exact .inl (s.root_union_of_root_eq hres e)
    · exact .inr ⟨x, s.mem_placesOf_union_of_mem hres hx, y, s.mem_placesOf_union_of_mem hres hy,
        hne⟩

end Union

/-- A pair that is not accepted, or that the components have settled, counts as looked at. -/
theorem settle {i j : Fin n} (h : p.Joined f done s)
    (hij : p.Accepted f i j →
      s.root i = s.root j ∨ Cluster.InConflict (s.placesOf i) (s.placesOf j)) :
    p.Joined f (done ++ [(i, j)]) s where
  chained := h.chained
  mem_placesOf := h.mem_placesOf
  apart k l hkl hacc := by
    rcases List.mem_append.mp hkl with hdone | hnew
    · exact h.apart k l hdone hacc
    · obtain ⟨rfl, rfl⟩ : k = i ∧ l = j := by simpa using hnew
      exact hij hacc

/-- A union settles its pair: it joins, or the two are one already, or places forbid it. -/
theorem step {i j : Fin n} (h : p.Joined f done s) (hacc : p.Accepted f i j) :
    p.Joined f (done ++ [(i, j)]) (s.union i j).1 := by
  cases hres : (s.union i j).2 with
  | true =>
      exact (h.union hres hacc).settle fun _ => .inl (s.root_union_eq_root_union hres)
  | false =>
      obtain ⟨hroot, hplaces⟩ := s.union_refused hres
      refine (h.of_eq hroot hplaces).settle fun _ => ?_
      rw [hroot, hroot, hplaces, hplaces]
      by_cases hne : s.root i = s.root j
      · exact .inl hne
      · exact .inr (Cluster.inConflict_of_placesAgree_eq_false (s.placesAgree_of_refused hres hne))

end Joined

theorem mem_pairs {i j : Fin n} : (i, j) ∈ pairs n ↔ i < j := by
  simp [pairs]

theorem joinPair_fst (cs : Vector Cluster n) (state : DisjointSets n × Log) (i j : Fin n) :
    (p.joinPair cs state (i, j)).1 =
      if (p.nameScore? (cs.get i).key (cs.get j).key).isSome then (state.1.union i j).1
      else state.1 := by
  simp only [joinPair]
  cases p.nameScore? (cs.get i).key (cs.get j).key <;> rfl

/-- A pair without a score changes nothing. -/
theorem joinPair_of_none {cs : Vector Cluster n} {i j : Fin n}
    (h : p.nameScore? (cs.get i).key (cs.get j).key = none) (state : DisjointSets n × Log) :
    p.joinPair cs state (i, j) = state := by
  have hscore : p.nameScore? cs[i].key cs[j].key = none := h
  rw [joinPair, hscore]

/-- A pair with a score is united, and logged unless the union is refused. -/
theorem joinPair_of_some {cs : Vector Cluster n} {i j : Fin n} {score : Float}
    (h : p.nameScore? (cs.get i).key (cs.get j).key = some score) (state : DisjointSets n × Log) :
    p.joinPair cs state (i, j) =
      ((state.1.union i j).1,
        if (state.1.union i j).2 then state.2 ++ [⟨.merge, (cs.get i).key, (cs.get j).key, score⟩]
        else state.2) := by
  have hscore : p.nameScore? cs[i].key cs[j].key = some score := h
  rw [joinPair, hscore]
  rfl

/-- What holds before the first pair and is kept from pair to pair holds at the end. -/
theorem joinAll_run (cs : Vector Cluster n)
    {motive : List (Fin n × Fin n) → DisjointSets n × Log → Prop}
    (start : motive [] (.singletons (cs.map (·.places)), []))
    (step : ∀ done todo state i j, pairs n = done ++ (i, j) :: todo → motive done state →
      motive (done ++ [(i, j)]) (p.joinPair cs state (i, j))) :
    motive (pairs n) (p.joinAll cs) := by
  have run : ∀ (todo done : List (Fin n × Fin n)) (state : DisjointSets n × Log),
      pairs n = done ++ todo → motive done state →
        motive (done ++ todo) (todo.foldl (p.joinPair cs) state) := by
    intro todo
    induction todo with
    | nil =>
        intro done state _ h
        simpa using h
    | cons pair rest ih =>
        intro done state hpairs h
        rw [List.foldl_cons, List.append_cons]
        apply ih
        · rwa [← List.append_cons]
        · exact step done rest state pair.1 pair.2 hpairs h
  exact run (pairs n) [] _ rfl start

/-- What holds of single clusters and is kept by every accepted union holds at the end. -/
theorem joinAll_induction (cs : Vector Cluster n)
    {motive : List (Fin n × Fin n) → DisjointSets n → Prop}
    (start : motive [] (.singletons (cs.map (·.places))))
    (skip : ∀ done s i j, ¬ p.Accepted cs.get i j → motive done s → motive (done ++ [(i, j)]) s)
    (join : ∀ done s i j, p.Accepted cs.get i j → motive done s →
      motive (done ++ [(i, j)]) (s.union i j).1) :
    motive (pairs n) (p.joinAll cs).1 := by
  apply joinAll_run cs (motive := fun done state => motive done state.1)
  · exact start
  · intro done todo state i j hpairs h
    have hij : i < j := mem_pairs.mp (hpairs ▸ List.mem_append_right _ List.mem_cons_self)
    rw [joinPair_fst]
    split
    · rename_i hscore
      exact join _ _ _ _ ⟨hij, hscore⟩ h
    · rename_i hscore
      exact skip _ _ _ _ (fun hacc => hscore hacc.2) h

theorem get_map_places (cs : Vector Cluster n) (i : Fin n) :
    (cs.map (·.places)).get i = (cs.get i).places := by
  change (cs.map (·.places))[i] = cs[i].places
  simp

/-- The components at the end, with every accepted pair settled. -/
theorem joined_joinAll (cs : Vector Cluster n) :
    p.Joined cs.get (pairs n) (p.joinAll cs).1 := by
  apply joinAll_induction
  · exact .singletons _ (get_map_places cs)
  · intro done s i j hacc h
    exact h.settle fun hacc' => absurd hacc' hacc
  · intro done s i j hacc h
    exact h.step hacc

/-- A union brings no two places together. -/
theorem size_placesOf_union_le {s : DisjointSets n} (h : ∀ k, (s.placesOf k).size ≤ 1)
    (i j k : Fin n) : ((s.union i j).1.placesOf k).size ≤ 1 := by
  cases hres : (s.union i j).2 with
  | false =>
      rw [(s.union_refused hres).2]
      exact h k
  | true =>
      by_cases hk : s.Meets i j k
      · apply Cluster.size_le_one_of_placesAgree (h i) (h j) ((s.union_snd i j).mp hres).2
        intro x
        rw [s.mem_placesOf_union hres, if_pos hk]
      · rw [SortedSet.size_le_one_iff]
        intro x hx y hy
        rw [s.mem_placesOf_union hres, if_neg hk] at hx hy
        exact SortedSet.size_le_one_iff.mp (h k) x hx y hy

theorem size_placesOf_singletons_le {cs : Vector Cluster n}
    (h : ∀ i : Fin n, (cs.get i).AtOnePlace) (i : Fin n) :
    ((DisjointSets.singletons (cs.map (·.places))).placesOf i).size ≤ 1 := by
  rw [DisjointSets.placesOf, DisjointSets.root_singletons]
  change ((cs.map Cluster.places).get i).size ≤ 1
  rw [get_map_places]
  exact h i

/-- Clusters at one place are joined to components at one place. -/
theorem placesOf_joinAll_size_le {cs : Vector Cluster n}
    (h : ∀ i : Fin n, (cs.get i).AtOnePlace) (i : Fin n) :
    ((p.joinAll cs).1.placesOf i).size ≤ 1 := by
  revert i
  apply joinAll_induction (p := p) cs (motive := fun _ s => ∀ i, (s.placesOf i).size ≤ 1)
  · exact size_placesOf_singletons_le h
  · intro _ _ _ _ _ hs
    exact hs
  · intro _ s i j _ hs
    exact size_placesOf_union_le hs i j

end Prosopography.MergePolicy
