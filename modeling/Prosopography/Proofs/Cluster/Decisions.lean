import Prosopography.Resolution
import Prosopography.Proofs.Cluster.Components
import Mathlib.Data.Fintype.Card

/-!
# One cluster less for each decision

Merging and attaching log a decision exactly when they bring two clusters together, so
the clusters that are left and these decisions add up to the clusters there were.
-/

namespace Prosopography

namespace Log

/-- The decisions that brought two clusters together. -/
def unions (log : Log) : Nat := log.countP (·.action != .ambiguous)

/-- Unions are the merges and the attachments of a log. -/
theorem unions_eq_count (log : Log) : log.unions = log.count .merge + log.count .attach := by
  induction log with
  | nil => rfl
  | cons d log ih =>
      simp only [unions, count, List.countP_cons] at ih ⊢
      rw [ih]
      cases d.action <;> simp <;> omega

@[simp] theorem unions_nil : unions [] = 0 := rfl

@[simp] theorem unions_append (log log' : Log) :
    unions (log ++ log') = log.unions + log'.unions :=
  List.countP_append

theorem unions_cons {d : Decision} (h : d.action ≠ .ambiguous) (log : Log) :
    unions (d :: log) = log.unions + 1 :=
  List.countP_cons_of_pos (by simpa using h)

/-- Entries about several hosts count as no union. -/
theorem unions_eq_zero {log : Log} (h : ∀ d ∈ log, d.action = .ambiguous) : log.unions = 0 :=
  List.countP_eq_zero.mpr fun d hd => by simp [h d hd]

end Log

/-- The clusters that are left and the decisions that brought clusters together add up. -/
def Outcome.AccountsFor (o : Outcome) (cs : List Cluster) : Prop :=
  o.clusters.length + o.log.unions = cs.length

/-- Two stages that account for their clusters do so one after the other. -/
theorem Outcome.AccountsFor.trans {o o' : Outcome} {cs : List Cluster} (h : o.AccountsFor cs)
    (h' : o'.AccountsFor o.clusters) :
    Outcome.AccountsFor ⟨o'.clusters, o.log ++ o'.log⟩ cs := by
  simp only [AccountsFor, Log.unions_append] at h h' ⊢
  omega

namespace DisjointSets

variable {n : Nat} (s : DisjointSets n)

/-- The positions that are roots. -/
def roots : Finset (Fin n) := {i | s.root i = i}

@[simp] theorem mem_roots {i : Fin n} : i ∈ s.roots ↔ s.root i = i := by simp [roots]

/-- Every component has one root. -/
theorem length_labels : (labels s.root (List.finRange n)).length = s.roots.card := by
  rw [← List.toFinset_card_of_nodup (nodup_labels _ _)]
  congr 1
  ext i
  rw [List.mem_toFinset, mem_labels, mem_roots]
  constructor
  · rintro ⟨j, -, rfl⟩
    exact s.root_root j
  · intro hi
    exact ⟨i, List.mem_finRange i, hi⟩

@[simp] theorem card_roots_singletons (places : Vector (SortedSet String) n) :
    (singletons places).roots.card = n := by
  simp [roots]

/-- Of the roots of two components that are joined, the later one is a root no more. -/
theorem roots_union {i j : Fin n} (h : (s.union i j).2 = true) :
    (s.union i j).1.roots = s.roots.erase (max (s.root i) (s.root j)) := by
  have hne : s.root i ≠ s.root j := ((s.union_snd i j).mp h).1
  ext k
  rw [mem_roots, s.root_union h, Finset.mem_erase, mem_roots]
  by_cases hk : s.root k = k
  · simp only [Meets, hk, and_true]
    rcases lt_or_gt_of_ne hne with hlt | hgt
    · rw [min_eq_left hlt.le, max_eq_right hlt.le]
      split <;> omega
    · rw [min_eq_right hgt.le, max_eq_left hgt.le]
      split <;> omega
  · have hmoved : (if s.Meets i j k then min (s.root i) (s.root j) else s.root k) ≠ k := by
      split
      · rintro rfl
        exact hk (s.root_of_eq_or (min_choice _ _))
      · exact hk
    simp [hk, hmoved]

/-- A union that is not refused takes away one root. -/
theorem card_roots_union {i j : Fin n} (h : (s.union i j).2 = true) :
    (s.union i j).1.roots.card + 1 = s.roots.card := by
  rw [s.roots_union h]
  apply Finset.card_erase_add_one
  rw [mem_roots]
  exact s.root_of_eq_or (max_choice _ _)

theorem roots_union_refused {i j : Fin n} (h : (s.union i j).2 = false) :
    (s.union i j).1.roots = s.roots := by
  ext k
  rw [mem_roots, mem_roots, (s.union_refused h).1]

end DisjointSets

namespace MergePolicy

variable (p : MergePolicy)

/-- Each cluster that a sweep takes is logged once. -/
theorem accountsFor_sweep (target : Cluster) (cs : List Cluster) :
    Outcome.AccountsFor ⟨(p.sweep target cs).left, (p.sweep target cs).log⟩ cs := by
  induction cs generalizing target with
  | nil => rfl
  | cons c rest ih =>
      rw [sweep]
      split
      · have hrest := ih (target.absorb c)
        simp only [Outcome.AccountsFor, List.length_cons] at hrest ⊢
        rw [Log.unions_cons (by simp)]
        omega
      · have hrest := ih target
        simp only [Outcome.AccountsFor, List.length_cons] at hrest ⊢
        omega

/-- Each cluster that the greedy strategy takes is logged once. -/
theorem accountsFor_mergeGreedy (cs : List Cluster) : (p.mergeGreedy cs).AccountsFor cs := by
  induction cs using mergeGreedy.induct p with
  | case1 =>
      rw [mergeGreedy]
      rfl
  | case2 c rest s ih =>
      have hsweep : Outcome.AccountsFor ⟨s.left, s.log⟩ rest := p.accountsFor_sweep c rest
      rw [mergeGreedy]
      change Outcome.AccountsFor
        ⟨s.target :: (p.mergeGreedy s.left).clusters, s.log ++ (p.mergeGreedy s.left).log⟩ _
      simp only [Outcome.AccountsFor, List.length_cons, Log.unions_append] at ih hsweep ⊢
      omega

/-- Each position is a root or was joined to another one by a union that is logged. -/
theorem card_roots_joinAll {n : Nat} (cs : Vector Cluster n) :
    (p.joinAll cs).1.roots.card + (p.joinAll cs).2.unions = n := by
  apply joinAll_run cs (motive := fun _ state => state.1.roots.card + state.2.unions = n)
  · simp
  · intro done todo state i j _ h
    cases hscore : p.nameScore? (cs.get i).key (cs.get j).key with
    | none => rwa [joinPair_of_none hscore]
    | some score =>
        rw [joinPair_of_some hscore]
        cases hres : (state.1.union i j).2 with
        | true =>
            have hcard := state.1.card_roots_union hres
            simp only [if_true, Log.unions_append, Log.unions_cons, ne_eq, reduceCtorEq,
              not_false_eq_true, Log.unions_nil]
            omega
        | false =>
            rw [state.1.roots_union_refused hres]
            simpa using h

/-- Each union of the transitive strategy is logged once. -/
theorem accountsFor_mergeTransitive (cs : List Cluster) :
    (p.mergeTransitive cs).AccountsFor cs := by
  rw [Outcome.AccountsFor, length_mergeTransitive, DisjointSets.length_labels]
  exact p.card_roots_joinAll ⟨cs.toArray, List.size_toArray⟩

end MergePolicy

namespace Cluster

variable {threshold : Float}

theorem accountsFor_attachFrom (done todo : List Cluster) :
    (attachFrom threshold done todo).AccountsFor (done ++ todo) := by
  induction done, todo using attachFrom.induct threshold with
  | case1 done =>
      rw [attachFrom]
      simp [Outcome.AccountsFor]
  | case2 done c rest hnone ih =>
      rw [attachFrom, hnone]
      rwa [List.append_assoc] at ih
  | case3 done c rest surname hsurname others i score hfound hosts ih =>
      -- The host takes the reference where it stands, so there is one cluster less to go on with.
      have hlength : hosts.length = done.length + rest.length := by
        rw [List.length_modify, List.length_append]
      rw [List.take_append_drop] at ih
      subst hosts others
      rw [attachFrom, hsurname]
      simp only [hfound, Outcome.AccountsFor, List.length_append, List.length_cons] at ih ⊢
      rw [Log.unions_cons (by simp)]
      omega
  | case4 done c rest surname hsurname others hmany ih =>
      rw [attachFrom, hsurname]
      dsimp only
      split
      · rename_i i score hfound
        exact absurd hfound (hmany i score)
      · simp only [Outcome.AccountsFor, Log.unions_append] at ih ⊢
        rw [Log.unions_eq_zero, Nat.zero_add, ih, List.append_assoc, List.singleton_append]
        intro d hd
        obtain ⟨_, -, rfl⟩ := List.mem_map.mp hd
        rfl

/-- Each reference that is attached is logged once. -/
theorem accountsFor_attachSurnames (cs : List Cluster) :
    (attachSurnames threshold cs).AccountsFor cs :=
  accountsFor_attachFrom [] cs

end Cluster

namespace Settings

variable (s : Settings) (cs : List Cluster)

theorem accountsFor_merge : (s.merge cs).AccountsFor cs := by
  rw [merge]
  cases s.strategy with
  | greedy => exact s.policy.accountsFor_mergeGreedy cs
  | transitive => exact s.policy.accountsFor_mergeTransitive cs

theorem accountsFor_attach : (s.attach cs).AccountsFor cs := by
  rw [attach]
  split
  · exact Cluster.accountsFor_attachSurnames cs
  · rfl

/-- Merging and attaching leave one cluster less for each decision that is counted. -/
theorem accountsFor_gather : (s.gather cs).AccountsFor cs :=
  (s.accountsFor_merge cs).trans (s.accountsFor_attach _)

end Settings

end Prosopography
