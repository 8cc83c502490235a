import Prosopography.Proofs.Cluster.GreedyParts
import Prosopography.Proofs.Cluster.Joining
import Mathlib.Data.List.FinRange

/-!
# Stars

Where acceptance does not chain, transitive merging joins a cluster to another one only
if both are still first in their components, and the later one is alone in its own. Each
component is a star: its members were joined, one by one, to its first position.
-/

namespace Prosopography.MergePolicy

variable (p : MergePolicy) {n : Nat}

/-- Two clusters that form accepted pairs with a third one form an accepted pair. -/
def Cliques (f : Fin n → Cluster) : Prop :=
  ∀ i j k, i ≠ j → j ≠ k → i ≠ k → p.Linked f i j → p.Linked f j k → p.Linked f i k

instance (f : Fin n → Cluster) (i j : Fin n) : Decidable (p.Accepted f i j) :=
  inferInstanceAs (Decidable (_ ∧ _))

instance (f : Fin n → Cluster) (i j : Fin n) : Decidable (p.Linked f i j) :=
  inferInstanceAs (Decidable (_ ∨ _))

instance (f : Fin n → Cluster) : Decidable (p.Cliques f) :=
  inferInstanceAs (Decidable (∀ i j k, i ≠ j → j ≠ k → i ≠ k →
    p.Linked f i j → p.Linked f j k → p.Linked f i k))

variable {p} {f : Fin n → Cluster}

theorem Linked.ne {i j : Fin n} (h : p.Linked f i j) : i ≠ j := by
  rcases h with h | h
  · exact h.1.ne
  · exact h.1.ne'

theorem Linked.accepted {i j : Fin n} (h : p.Linked f i j) (hij : i < j) : p.Accepted f i j := by
  rcases h with h | h
  · exact h
  · exact absurd h.1 hij.asymm

/-- Where links come in cliques, a chain is one link at most. -/
theorem Cliques.linked (h : p.Cliques f) {i j : Fin n}
    (hij : Relation.ReflTransGen (p.Linked f) i j) : i = j ∨ p.Linked f i j := by
  induction hij with
  | refl => exact .inl rfl
  | @tail j k _ hjk ih =>
      rcases ih with rfl | hij
      · exact .inr hjk
      · by_cases hik : i = k
        · exact .inl hik
        · exact .inr (h i j k hij.ne hjk.ne hik hij hjk)

/-- The pairs come in lexicographic order. -/
theorem pairwise_pairs (n : Nat) :
    (pairs n).Pairwise fun a b => a.1 < b.1 ∨ a.1 = b.1 ∧ a.2 < b.2 := by
  rw [pairs, List.pairwise_flatMap]
  constructor
  · intro i _
    rw [List.pairwise_map]
    exact ((List.pairwise_lt_finRange n).filter _).imp fun hjk => .inr ⟨rfl, hjk⟩
  · apply (List.pairwise_lt_finRange n).imp
    intro i j hij a ha b hb
    obtain ⟨_, -, rfl⟩ := List.mem_map.mp ha
    obtain ⟨_, -, rfl⟩ := List.mem_map.mp hb
    exact .inl hij

/-- The pairs before a pair come before it row by row. -/
theorem mem_done_iff {done todo : List (Fin n × Fin n)} {i j k l : Fin n}
    (h : pairs n = done ++ (i, j) :: todo) :
    (k, l) ∈ done ↔ k < l ∧ (k < i ∨ k = i ∧ l < j) := by
  have hsorted := pairwise_pairs n
  rw [h, List.pairwise_append] at hsorted
  obtain ⟨-, htodo, hdone⟩ := hsorted
  constructor
  · intro hkl
    have hlt : k < l := mem_pairs.mp (h ▸ List.mem_append_left _ hkl)
    exact ⟨hlt, hdone (k, l) hkl (i, j) List.mem_cons_self⟩
  · rintro ⟨hlt, hbefore⟩
    have hkl : (k, l) ∈ done ++ (i, j) :: todo := h ▸ mem_pairs.mpr hlt
    rcases List.mem_append.mp hkl with hkl | hkl
    · exact hkl
    · exfalso
      rcases List.mem_cons.mp hkl with e | hkl
      · obtain ⟨rfl, rfl⟩ := Prod.mk.inj e
        omega
      · have hafter : i < k ∨ i = k ∧ j < l := (List.pairwise_cons.mp htodo).1 (k, l) hkl
        omega

/-- A position has been looked at together with those of the rows before. -/
theorem lt_of_mem_done {done todo : List (Fin n × Fin n)} {i j k : Fin n}
    (h : pairs n = done ++ (i, j) :: todo) (hk : (k, j) ∈ done) : k < i :=
  ((mem_done_iff h).mp hk).2.resolve_right fun e => lt_irrefl j e.2

variable (p) in
/-- The components and the log once the pairs of `done` have been looked at, where each position
was joined to its root when the two were looked at as a pair. -/
structure Stars (f : Fin n → Cluster) (done : List (Fin n × Fin n))
    (state : DisjointSets n × Log) : Prop where
  joined : p.Joined f done state.1
  settled : ∀ k, state.1.root k ≠ k → (state.1.root k, k) ∈ done
  log : state.2 = done.filterMap fun e =>
    if state.1.root e.2 = e.1 then p.decision? (f e.1).key (f e.2).key else none

namespace Stars

theorem singletons (cs : Vector Cluster n) :
    p.Stars cs.get [] (.singletons (cs.map (·.places)), []) where
  joined := .singletons _ (get_map_places cs)
  settled k hk := absurd (DisjointSets.root_singletons _ k) hk
  log := rfl

variable {done todo : List (Fin n × Fin n)} {state : DisjointSets n × Log} {i j : Fin n}
  (h : p.Stars f done state) (hpairs : pairs n = done ++ (i, j) :: todo)
include h hpairs

/-- Nothing is joined to the second position of a pair before its row has come. -/
theorem eq_of_root_eq (hij : i < j) {k : Fin n} (hk : state.1.root k = j) : k = j := by
  by_contra hne
  have hdone := h.settled k (by rw [hk]; exact Ne.symm hne)
  rw [hk, mem_done_iff hpairs] at hdone
  rcases hdone.2 with hji | ⟨hji, -⟩
  · exact hij.asymm hji
  · exact hij.ne hji.symm

/-- The second position of a pair is alone, or was joined to one before the first position. -/
theorem root_eq_or_lt : state.1.root j = j ∨ state.1.root j < i := by
  by_cases hj : state.1.root j = j
  · exact .inl hj
  · exact .inr (lt_of_mem_done hpairs (h.settled j hj))

/-- Before a pair is looked at, the later position is not joined to the earlier one. -/
theorem root_ne (hij : i < j) : state.1.root j ≠ i := by
  rcases h.root_eq_or_lt hpairs with hj | hj
  · rw [hj]
    exact hij.ne'
  · exact hj.ne

/-- Those that have been joined to the first position of a pair stand before the second one. -/
theorem lt_of_root_eq (hij : i < j) {k : Fin n} (hk : state.1.root k = i) : k < j := by
  by_cases hki : k = i
  · rwa [hki]
  · have hdone := h.settled k (by rw [hk]; exact Ne.symm hki)
    rw [hk, mem_done_iff hpairs] at hdone
    exact (hdone.2.resolve_left (lt_irrefl i)).2

/-- A union that leaves the first position a root has joined two roots. -/
theorem roots_of_root_union (hres : (state.1.union i j).2 = true)
    (hk : (state.1.union i j).1.root i = i) : state.1.root i = i ∧ state.1.root j = j := by
  have hi : state.1.root i = i := state.1.root_of_root_union hk
  refine ⟨hi, (h.root_eq_or_lt hpairs).resolve_right ?_⟩
  intro hlt
  have hmeets : state.1.Meets i j i := .inl rfl
  rw [state.1.root_union hres, if_pos hmeets, hi] at hk
  exact hlt.not_ge (hk ▸ min_le_right _ _)

/-- A pair that is passed over: no root changes and nothing is logged. -/
theorem pass {t : DisjointSets n} (hroot : ∀ k, t.root k = state.1.root k)
    (hjoined : p.Joined f (done ++ [(i, j)]) t) (hij : i < j) :
    p.Stars f (done ++ [(i, j)]) (t, state.2) where
  joined := hjoined
  settled k hk := by
    rw [hroot] at hk ⊢
    exact List.mem_append_left _ (h.settled k hk)
  log := by
    simp only [hroot, List.filterMap_append, List.filterMap_cons, List.filterMap_nil,
      if_neg (h.root_ne hpairs hij), List.append_nil]
    exact h.log

section Join

variable (hj : state.1.root j = j)
include hj

/-- No pair that was looked at before joins the root that moves to its new root. -/
theorem log_of_moved :
    (done.filterMap fun e => if (if e.2 = j then i else state.1.root e.2) = e.1 then
      p.decision? (f e.1).key (f e.2).key else none) = state.2 := by
  rw [h.log]
  apply List.filterMap_congr
  rintro ⟨k, l⟩ hkl
  by_cases hlj : l = j
  · subst hlj
    have hki : i ≠ k := (lt_of_mem_done hpairs hkl).ne'
    have hlk : l ≠ k := ((mem_done_iff hpairs).mp hkl).1.ne'
    simp [hki, hj, hlk]
  · simp only [if_neg hlj]

variable (hi : state.1.root i = i) (hacc : p.Accepted f i j)
  (hres : (state.1.union i j).2 = true)
include hi hacc hres

/-- A union of two roots moves the later one and no other position. -/
theorem root_union (k : Fin n) :
    (state.1.union i j).1.root k = if k = j then i else state.1.root k := by
  rw [state.1.root_union hres, hi, hj, min_eq_left hacc.1.le]
  by_cases hkj : k = j
  · rw [if_pos hkj, if_pos (.inr (by rw [hkj]))]
  · rw [if_neg hkj]
    split
    · rename_i hmeets
      rcases hmeets with e | e
      · rw [e, hi]
      · exact absurd (h.eq_of_root_eq hpairs hacc.1 (e.trans hj)) hkj
    · rfl

/-- A union keeps the stars, with its decision in the log. -/
theorem join {d : Decision} (hd : p.decision? (f i).key (f j).key = some d) :
    p.Stars f (done ++ [(i, j)]) ((state.1.union i j).1, state.2 ++ [d]) where
  joined := h.joined.step hacc
  settled k hk := by
    rw [h.root_union hpairs hj hi hacc hres] at hk ⊢
    split at hk
    · rename_i hkj
      rw [if_pos hkj, hkj]
      exact List.mem_append_right _ List.mem_cons_self
    · rename_i hkj
      rw [if_neg hkj]
      exact List.mem_append_left _ (h.settled k hk)
  log := by
    simp only [h.root_union hpairs hj hi hacc hres, List.filterMap_append,
      h.log_of_moved hpairs hj, List.filterMap_cons, if_pos, hd, List.filterMap_nil]

end Join

end Stars

variable (p) in
/-- Stars at one place each, once the pairs of `done` have been looked at. -/
structure Starred (f : Fin n → Cluster) (done : List (Fin n × Fin n))
    (state : DisjointSets n × Log) : Prop where
  joined : p.Joined f done state.1
  onePlace : ∀ k, (state.1.placesOf k).size ≤ 1
  /-- A position is joined to its root when they are looked at as a pair. -/
  settled : ∀ k, state.1.root k ≠ k → (state.1.root k, k) ∈ done
  /-- A root refuses a later position only for the place of one it has joined before. -/
  refused : ∀ i j, (i, j) ∈ done → p.Accepted f i j → state.1.root i = i →
    state.1.root j = i ∨ state.1.root j < i ∨
      ∃ k, k < j ∧ state.1.root k = i ∧ Cluster.InConflict (f k).places (f j).places
  log : state.2 = done.filterMap fun e =>
    if state.1.root e.2 = e.1 then p.decision? (f e.1).key (f e.2).key else none

namespace Starred

variable {done todo : List (Fin n × Fin n)} {state : DisjointSets n × Log}

theorem stars (h : p.Starred f done state) : p.Stars f done state :=
  ⟨h.joined, h.settled, h.log⟩

theorem linked (h : p.Starred f done state) (hf : p.Cliques f) {i j : Fin n}
    (e : state.1.root i = state.1.root j) (hij : i ≠ j) : p.Linked f i j := by
  have hchain := h.joined.chained i j e
  have hreach := Relation.ReflTransGen.mono (fun _ _ hstep => hstep.1) _ _ hchain
  exact (hf.linked hreach).resolve_left hij

/-- Accepted pairs that have been looked at are one component or in conflict. -/
theorem placesAgree_eq_false (h : p.Starred f done state) {i j : Fin n} (hdone : (i, j) ∈ done)
    (hacc : p.Accepted f i j) (hne : state.1.root i ≠ state.1.root j) :
    Cluster.placesAgree (state.1.placesOf i) (state.1.placesOf j) = false := by
  rcases h.joined.apart i j hdone hacc with e | ⟨x, hx, y, hy, hxy⟩
  · exact absurd e hne
  · apply Bool.eq_false_iff.mpr
    intro hagree
    exact hxy (Cluster.eq_of_placesAgree (h.onePlace i) (h.onePlace j) hagree hx hy)

section Pair

variable {i j : Fin n} (h : p.Starred f done state) (hf : p.Cliques f)
  (hpairs : pairs n = done ++ (i, j) :: todo) (hacc : p.Accepted f i j)
include h hf hpairs hacc

/-- An earlier root of either position has settled both. -/
theorem roots_of_union (hres : (state.1.union i j).2 = true) :
    state.1.root i = i ∧ state.1.root j = j := by
  obtain ⟨hne, hagree⟩ := (state.1.union_snd i j).mp hres
  have hij : i < j := hacc.1
  have hi : state.1.root i = i := by
    by_contra hi
    have hsettled := h.settled i hi
    have hlt : state.1.root i < i := ((mem_done_iff hpairs).mp hsettled).1
    have hroot : state.1.root (state.1.root i) = state.1.root i := state.1.root_root i
    have hlinked : p.Linked f (state.1.root i) j :=
      hf _ i j hlt.ne hij.ne (hlt.trans hij).ne (h.linked hf hroot hlt.ne) (.inl hacc)
    have hdone := (mem_done_iff hpairs).mpr ⟨hlt.trans hij, .inl hlt⟩
    have hdisagree := h.placesAgree_eq_false hdone (hlinked.accepted (hlt.trans hij))
      (by rwa [hroot])
    rw [state.1.placesOf_congr hroot, hagree] at hdisagree
    exact Bool.noConfusion hdisagree
  refine ⟨hi, ?_⟩
  by_contra hj
  have hlt : state.1.root j < j := ((mem_done_iff hpairs).mp (h.settled j hj)).1
  have hroot : state.1.root (state.1.root j) = state.1.root j := state.1.root_root j
  have hli : state.1.root j < i := lt_of_mem_done hpairs (h.settled j hj)
  have hlinked : p.Linked f (state.1.root j) i :=
    hf _ j i hlt.ne hij.ne' hli.ne (h.linked hf hroot hlt.ne) (.inr hacc)
  have hdone := (mem_done_iff hpairs).mpr ⟨hli, .inl hli⟩
  have hdisagree := h.placesAgree_eq_false hdone (hlinked.accepted hli)
    (by rw [hroot]; exact hne.symm)
  rw [state.1.placesOf_congr hroot, Cluster.placesAgree_comm, hagree] at hdisagree
  exact Bool.noConfusion hdisagree

/-- A union moves one position and no other. -/
theorem root_union (hres : (state.1.union i j).2 = true) (k : Fin n) :
    (state.1.union i j).1.root k = if k = j then i else state.1.root k := by
  obtain ⟨hi, hj⟩ := h.roots_of_union hf hpairs hacc hres
  exact h.stars.root_union hpairs hj hi hacc hres k

end Pair

section Step

variable {i j : Fin n} (h : p.Starred f done state)
  (hpairs : pairs n = done ++ (i, j) :: todo)
include h hpairs

/-- A pair that is passed over: no root changes and nothing is logged. -/
theorem pass {t : DisjointSets n} (hroot : ∀ k, t.root k = state.1.root k)
    (hplaces : ∀ k, t.placesOf k = state.1.placesOf k)
    (hjoined : p.Joined f (done ++ [(i, j)]) t) (hij : i < j)
    (hrefused : p.Accepted f i j → state.1.root i = i → state.1.root j < i ∨
      ∃ k, k < j ∧ state.1.root k = i ∧ Cluster.InConflict (f k).places (f j).places) :
    p.Starred f (done ++ [(i, j)]) (t, state.2) := by
  have hstars := h.stars.pass hpairs hroot hjoined hij
  refine ⟨hstars.joined, ?_, hstars.settled, ?_, hstars.log⟩
  · intro k
    rw [hplaces]
    exact h.onePlace k
  · intro k l hkl hacc hk
    simp only [hroot] at hk ⊢
    rcases List.mem_append.mp hkl with hdone | hnew
    · exact h.refused k l hdone hacc hk
    · obtain ⟨rfl, rfl⟩ : k = i ∧ l = j := by simpa using hnew
      exact .inr (hrefused hacc hk)

/-- A pair that is not accepted changes nothing. -/
theorem skip (hacc : ¬ p.Accepted f i j) : p.Starred f (done ++ [(i, j)]) state := by
  have hij : i < j := mem_pairs.mp (hpairs ▸ List.mem_append_right _ List.mem_cons_self)
  apply h.pass hpairs (fun _ => rfl) (fun _ => rfl) _ hij
  · exact fun hacc' => absurd hacc' hacc
  · exact h.joined.settle fun hacc' => absurd hacc' hacc

/-- Two roots that stay apart have places in conflict, the first one by what it has joined. -/
theorem conflict_of_roots (hij : i < j) (hi : state.1.root i = i) (hj : state.1.root j = j)
    (hres : (state.1.union i j).2 = false) :
    ∃ k, k < j ∧ state.1.root k = i ∧ Cluster.InConflict (f k).places (f j).places := by
  have hne : state.1.root i ≠ state.1.root j := by
    rw [hi, hj]
    exact hij.ne
  obtain ⟨x, hx, y, hy, hxy⟩ :=
    Cluster.inConflict_of_placesAgree_eq_false (state.1.placesAgree_of_refused hres hne)
  obtain ⟨k, hk, hkx⟩ := (h.joined.mem_placesOf i x).mp hx
  obtain ⟨l, hl, hly⟩ := (h.joined.mem_placesOf j y).mp hy
  obtain rfl : l = j := h.stars.eq_of_root_eq hpairs hij (hl.trans hj)
  have hki : state.1.root k = i := hk.trans hi
  exact ⟨k, h.stars.lt_of_root_eq hpairs hij hki, hki, x, hkx, y, hly, hxy⟩

/-- A refused union keeps the forest starred. -/
theorem refuse (hacc : p.Accepted f i j) (hres : (state.1.union i j).2 = false) :
    p.Starred f (done ++ [(i, j)]) ((state.1.union i j).1, state.2) := by
  obtain ⟨hroot, hplaces⟩ := state.1.union_refused hres
  apply h.pass hpairs hroot hplaces (h.joined.step hacc) hacc.1
  intro _ hi
  rcases h.stars.root_eq_or_lt hpairs with hj | hj
  · exact .inr (h.conflict_of_roots hpairs hacc.1 hi hj hres)
  · exact .inl hj

omit hpairs in
/-- A root that moves changes nothing for a position that has refused another one: it is not among
those that the position has joined. -/
theorem refused_of_moved (hj : state.1.root j = j) {k l : Fin n} (hkl : (k, l) ∈ done)
    (hacc : p.Accepted f k l) (hk : state.1.root k = k) (hkj : k ≠ j) :
    (if l = j then i else state.1.root l) = k ∨ (if l = j then i else state.1.root l) < k ∨
      ∃ m, m < l ∧ (if m = j then i else state.1.root m) = k ∧
        Cluster.InConflict (f m).places (f l).places := by
  rcases h.refused k l hkl hacc hk with e | e | ⟨m, hml, hmk, hconflict⟩
  · have hlj : l ≠ j := by
      rintro rfl
      exact hkj (e.symm.trans hj)
    exact .inl (by rwa [if_neg hlj])
  · have hlj : l ≠ j := by
      rintro rfl
      rw [hj] at e
      exact e.asymm hacc.1
    exact .inr (.inl (by rwa [if_neg hlj]))
  · have hmj : m ≠ j := by
      rintro rfl
      exact hkj (hmk.symm.trans hj)
    exact .inr (.inr ⟨m, hml, by rwa [if_neg hmj], hconflict⟩)

/-- A union keeps the forest starred. -/
theorem join (hf : p.Cliques f) (hacc : p.Accepted f i j) (hres : (state.1.union i j).2 = true)
    {d : Decision} (hd : p.decision? (f i).key (f j).key = some d) :
    p.Starred f (done ++ [(i, j)]) ((state.1.union i j).1, state.2 ++ [d]) := by
  have hroot := h.root_union hf hpairs hacc hres
  obtain ⟨hi, hj⟩ := h.roots_of_union hf hpairs hacc hres
  have hstars := h.stars.join hpairs hj hi hacc hres hd
  refine ⟨hstars.joined, size_placesOf_union_le h.onePlace i j, hstars.settled, ?_, hstars.log⟩
  intro k l hkl hacc' hk
  simp only [hroot] at hk ⊢
  rcases List.mem_append.mp hkl with hdone | hnew
  · have hkj : k ≠ j := by
      rintro rfl
      rw [if_pos rfl] at hk
      exact hacc.1.ne hk
    rw [if_neg hkj] at hk
    exact h.refused_of_moved hj hdone hacc' hk hkj
  · obtain ⟨rfl, rfl⟩ : k = i ∧ l = j := by simpa using hnew
    exact .inl (if_pos rfl)

end Step

end Starred

/-- Where acceptance does not chain, joining all pairs leaves stars. -/
theorem starred_joinAll (cs : Vector Cluster n) (h : ∀ i : Fin n, (cs.get i).AtOnePlace)
    (hcs : p.Cliques cs.get) : p.Starred cs.get (pairs n) (p.joinAll cs) := by
  apply joinAll_run
  · have hstars := Stars.singletons (p := p) cs
    refine ⟨hstars.joined, size_placesOf_singletons_le h, hstars.settled, ?_, hstars.log⟩
    intro i j hij
    exact absurd hij List.not_mem_nil
  · intro done todo state i j hpairs hstate
    have hij : i < j := mem_pairs.mp (hpairs ▸ List.mem_append_right _ List.mem_cons_self)
    cases hscore : p.nameScore? (cs.get i).key (cs.get j).key with
    | none =>
        rw [joinPair_of_none hscore]
        exact hstate.skip hpairs fun hacc => by simp [Accepted, hscore] at hacc
    | some score =>
        have hacc : p.Accepted cs.get i j := ⟨hij, by rw [hscore]; rfl⟩
        have hd : p.decision? (cs.get i).key (cs.get j).key =
            some ⟨.merge, (cs.get i).key, (cs.get j).key, score⟩ := by
          rw [decision?, hscore, Option.map_some]
        rw [joinPair_of_some hscore]
        cases hres : (state.1.union i j).2 with
        | true => exact hstate.join hpairs hcs hacc hres hd
        | false => exact hstate.refuse hpairs hacc hres

end Prosopography.MergePolicy
