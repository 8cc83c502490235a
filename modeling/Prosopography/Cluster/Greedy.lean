import Prosopography.Cluster.Policy

/-!
# Greedy merging

Clusters are taken in order. Each one absorbs every later cluster that the policy
accepts, growing its places on the way; an absorbed cluster absorbs nothing.
-/

namespace Prosopography.MergePolicy

/-- A cluster after it has absorbed what it may from a list, and what is left of the list. -/
structure Sweep where
  target : Cluster
  left : List Cluster
  log : Log

/-- Goes over the clusters behind a target, which takes those that it accepts on the way. -/
def sweep (p : MergePolicy) (target : Cluster) : List Cluster → Sweep
  | [] => ⟨target, [], []⟩
  | c :: rest =>
    match p.accepts? target c with
    | some score =>
      let s := p.sweep (target.absorb c) rest
      { s with log := ⟨.merge, target.key, c.key, score⟩ :: s.log }
    | none =>
      let s := p.sweep target rest
      { s with left := c :: s.left }

/-- A sweep leaves no more clusters than it was given. -/
theorem length_left_sweep_le (p : MergePolicy) (target : Cluster) (cs : List Cluster) :
    (p.sweep target cs).left.length ≤ cs.length := by
  induction cs generalizing target with
  | nil => simp [sweep]
  | cons c rest ih =>
      rw [sweep]
      split
      · exact Nat.le_succ_of_le (ih _)
      · exact Nat.succ_le_succ (ih _)

/-- Lets every cluster that is not taken be a target, in order. -/
def mergeGreedy (p : MergePolicy) : List Cluster → Outcome
  | [] => ⟨[], []⟩
  | c :: rest =>
    let s := p.sweep c rest
    let o := p.mergeGreedy s.left
    ⟨s.target :: o.clusters, s.log ++ o.log⟩
termination_by cs => cs.length
decreasing_by
  exact Nat.lt_succ_of_le (p.length_left_sweep_le c rest)

end Prosopography.MergePolicy
