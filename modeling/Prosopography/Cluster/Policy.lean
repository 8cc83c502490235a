import Prosopography.Cluster.Basic
import Prosopography.Decision
import Prosopography.Name.Key
import Prosopography.Name.Similarity

/-!
# Merge policy

Two clusters may be merged when their keys differ, are long enough and similar
enough, their given names are similar enough, and their places agree.
-/

namespace Prosopography

/-- Thresholds of the policy, on the scale of scores. -/
structure MergePolicy where
  mergeThreshold : Float
  givenNameThreshold : Float
  minKeyLength : Nat

namespace MergePolicy

/-- Whether a key has enough characters to be merged at all. -/
def longEnough (p : MergePolicy) (key : String) : Bool := p.minKeyLength ≤ key.length

/-- Whether the first words of two keys are similar enough. -/
def givenNamesAgree (p : MergePolicy) (a b : List Char) : Bool :=
  let x := Name.givenName a
  let y := Name.givenName b
  !x.isEmpty && !y.isEmpty &&
    !decide (Similarity.toFloat (Similarity.ratio x y) < p.givenNameThreshold)

/-- The similarity of two keys that may be merged as far as names go. -/
def nameScore? (p : MergePolicy) (a b : String) : Option Float :=
  if a = b ∨ !p.longEnough a ∨ !p.longEnough b then none
  else
    let score := Similarity.toFloat (Similarity.wordSetRatio a.toList b.toList)
    if score < p.mergeThreshold then none
    else if p.givenNamesAgree a.toList b.toList then some score
    else none

/-- The similarity of two clusters that may be merged. -/
def accepts? (p : MergePolicy) (a b : Cluster) : Option Float :=
  (p.nameScore? a.key b.key).filter fun _ => a.compatible b

end MergePolicy

/-- The clusters left by a step and the decisions it took. -/
structure Outcome where
  clusters : List Cluster
  log : Log

end Prosopography
