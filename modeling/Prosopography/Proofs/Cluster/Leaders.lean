import Prosopography.Proofs.Cluster.Greedy
import Prosopography.Proofs.Cluster.GreedyParts
import Mathlib.Data.List.Forall2

/-!
# Greedy merging as one pass

Sweeping once for each target gives what a single pass gives in which every cluster goes to
the first leader that accepts it, or becomes a leader itself. The pass never looks ahead, so
clusters at the end of a list leave those before them together and apart as they were.
-/

namespace Prosopography.MergePolicy

open Cluster

variable (p : MergePolicy)

/-- The first leader that accepts a cluster absorbs it; a cluster that none accepts becomes the
last leader. -/
def follow : List Cluster → Cluster → List Cluster
  | [], c => [c]
  | leader :: leaders, c =>
    if (p.accepts? leader c).isSome then leader.absorb c :: leaders
    else leader :: follow leaders c

/-- The leaders after one pass over some clusters. -/
def leaders (cs : List Cluster) : List Cluster := cs.foldl p.follow []

/-- The first leader takes from a pass what its sweep takes, and the others see what is left. -/
theorem foldl_follow_cons (leader : Cluster) (leaders cs : List Cluster) :
    cs.foldl p.follow (leader :: leaders) =
      (p.sweep leader cs).target :: (p.sweep leader cs).left.foldl p.follow leaders := by
  -- Both sides ask the first leader as it is when the cluster comes, with what it has absorbed.
  induction cs generalizing leader leaders with
  | nil => rfl
  | cons c cs ih =>
      rw [List.foldl_cons, follow, sweep]
      cases hscore : p.accepts? leader c with
      | none => exact ih leader (p.follow leaders c)
      | some score => exact ih (leader.absorb c) leaders

/-- The greedy strategy is the algorithm of leaders. -/
theorem clusters_mergeGreedy (cs : List Cluster) : (p.mergeGreedy cs).clusters = p.leaders cs := by
  induction cs using mergeGreedy.induct p with
  | case1 => rw [mergeGreedy]; rfl
  | case2 c rest s ih =>
      calc
        (p.mergeGreedy (c :: rest)).clusters = s.target :: p.leaders s.left := by
          rw [mergeGreedy, ← ih]
        _ = rest.foldl p.follow [c] := (p.foldl_follow_cons c [] rest).symm

/-- A cluster as it was but for some clusters of a list that it has absorbed, in their order. -/
def Gains (more : List Cluster) (c d : Cluster) : Prop :=
  ∃ taken : List Cluster, taken.Sublist more ∧ d = taken.foldl absorb c

/-- A cluster made of some clusters of a list, the first of which has absorbed the others. -/
def MadeOf (cs : List Cluster) (d : Cluster) : Prop :=
  ∃ c taken, (c :: taken).Sublist cs ∧ d = taken.foldl absorb c

theorem Gains.mono {cs more : List Cluster} {c d : Cluster} (h : Gains cs c d)
    (hsub : cs.Sublist more) : Gains more c d := by
  obtain ⟨taken, htaken, rfl⟩ := h
  exact ⟨taken, htaken.trans hsub, rfl⟩

/-- A target gains whole clusters of the sweep, in order. -/
theorem gains_sweep (c : Cluster) (cs : List Cluster) : Gains cs c (p.sweep c cs).target := by
  have hsweep := p.sweep_map id c cs
  rw [List.map_id] at hsweep
  refine ⟨p.taken id c cs, p.taken_sublist id c cs, ?_⟩
  rw [hsweep, absorbing, List.map_id]

/-- Every merged cluster is made of whole clusters, in order. -/
theorem madeOf_mergeGreedy {cs : List Cluster} {d : Cluster}
    (h : d ∈ (p.mergeGreedy cs).clusters) : MadeOf cs d := by
  have hgreedy := p.mergeGreedy_map id cs
  rw [List.map_id] at hgreedy
  rw [hgreedy] at h
  obtain ⟨g, hg, rfl⟩ := List.mem_map.mp h
  refine ⟨g.1, g.2, sublist_of_mem_greedyParts hg, ?_⟩
  rw [absorbing, List.map_id]
  rfl

/-- Leaders stay in their places during a pass, and new ones come after them. -/
theorem exists_foldl_follow (leaders more : List Cluster) :
    ∃ grown new, more.foldl p.follow leaders = grown ++ new ∧
      List.Forall₂ (Gains more) leaders grown ∧ ∀ d ∈ new, MadeOf more d := by
  -- On the leaders: each one takes its part of the pass and leaves the rest to those after it.
  induction leaders generalizing more with
  | nil =>
      refine ⟨[], p.leaders more, rfl, .nil, ?_⟩
      rw [← clusters_mergeGreedy]
      exact fun d => p.madeOf_mergeGreedy
  | cons leader leaders ih =>
      have hleft := p.left_sweep_sublist leader more
      obtain ⟨grown, new, hpass, hgrown, hnew⟩ := ih (p.sweep leader more).left
      refine ⟨(p.sweep leader more).target :: grown, new, ?_, ?_, ?_⟩
      · rw [foldl_follow_cons, hpass, List.cons_append]
      · exact .cons (p.gains_sweep leader more) (hgrown.imp fun _ _ h => h.mono hleft)
      · intro d hd
        obtain ⟨c, taken, hsub, rfl⟩ := hnew d hd
        exact ⟨c, taken, hsub.trans hleft, rfl⟩

/-- Greedy merging is one pass over the clusters. Further clusters at the end of a list join the
clusters that were there or each other, and change nothing else. -/
theorem mergeGreedy_eq_leaders (cs : List Cluster) :
    (p.mergeGreedy cs).clusters = p.leaders cs ∧
      ∀ more, ∃ grown new, (p.mergeGreedy (cs ++ more)).clusters = grown ++ new ∧
        List.Forall₂ (Gains more) (p.mergeGreedy cs).clusters grown ∧
          ∀ d ∈ new, MadeOf more d := by
  refine ⟨p.clusters_mergeGreedy cs, ?_⟩
  intro more
  have hpass : (p.mergeGreedy (cs ++ more)).clusters =
      more.foldl p.follow (p.mergeGreedy cs).clusters := by
    rw [clusters_mergeGreedy, clusters_mergeGreedy, leaders, List.foldl_append]
    rfl
  rw [hpass]
  exact p.exists_foldl_follow _ more

end Prosopography.MergePolicy
