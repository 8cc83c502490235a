import Prosopography.Cluster.DisjointSets
import Prosopography.Cluster.Policy
import Prosopography.Collection.GroupBy

/-!
# Transitive merging

Every pair of clusters whose names the policy accepts joins their components,
unless the places of the components disagree. Each component becomes one cluster.
-/

namespace Prosopography.MergePolicy

/-- All pairs of positions, the earlier one first, in order. -/
def pairs (n : Nat) : List (Fin n × Fin n) :=
  (List.finRange n).flatMap fun i => ((List.finRange n).filter (i < ·)).map fun j => (i, j)

/-- Joins one pair if its names are accepted. -/
def joinPair (p : MergePolicy) {n : Nat} (cs : Vector Cluster n)
    (state : DisjointSets n × Log) (pair : Fin n × Fin n) : DisjointSets n × Log :=
  let a := cs[pair.1]
  let b := cs[pair.2]
  match p.nameScore? a.key b.key with
  | none => state
  | some score =>
    let (sets, joined) := state.1.union pair.1 pair.2
    (sets, if joined then state.2 ++ [⟨.merge, a.key, b.key, score⟩] else state.2)

/-- Tries all pairs of clusters in order, with every cluster on its own at first. -/
def joinAll (p : MergePolicy) {n : Nat} (cs : Vector Cluster n) : DisjointSets n × Log :=
  (pairs n).foldl (p.joinPair cs) (.singletons (cs.map (·.places)), [])

/-- The first cluster of a component after it has absorbed the others. -/
def gather : List Cluster → Option Cluster
  | [] => none
  | c :: rest => some (rest.foldl Cluster.absorb c)

/-- Merges the clusters of each component, in the order of their first members. -/
def mergeTransitive (p : MergePolicy) (cs : List Cluster) : Outcome :=
  let (sets, log) := p.joinAll (Vector.mk cs.toArray rfl)
  let components := groupBy (fun e => e.2) (cs.zip ((List.finRange _).map sets.root))
  ⟨components.filterMap fun g => gather (g.2.map (·.1)), log⟩

end Prosopography.MergePolicy
