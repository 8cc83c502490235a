import Prosopography.Cluster.Policy
import Prosopography.Proofs.Cluster.Places
import Prosopography.Proofs.Name.Similarity

/-!
# The policy has no direction

Whether two clusters may be merged, and with which score, does not depend on which of them
comes first: neither the similarity of keys nor that of given names does, and places agree from
either side.
-/

namespace Prosopography.MergePolicy

open Similarity

variable (p : MergePolicy)

theorem givenNamesAgree_comm (a b : List Char) :
    p.givenNamesAgree a b = p.givenNamesAgree b a := by
  simp only [givenNamesAgree]
  rw [ratio_comm, Bool.and_comm (!(Name.givenName a).isEmpty)]

theorem nameScore?_comm (a b : String) : p.nameScore? a b = p.nameScore? b a := by
  have hkeys : (a = b ∨ (!p.longEnough a) = true ∨ (!p.longEnough b) = true) ↔
      (b = a ∨ (!p.longEnough b) = true ∨ (!p.longEnough a) = true) :=
    or_congr eq_comm or_comm
  rw [nameScore?, nameScore?, wordSetRatio_comm, givenNamesAgree_comm]
  simp only [hkeys]

/-- Whether clusters are accepted, and by which score, does not depend on the side. -/
theorem accepts?_comm (c d : Cluster) : p.accepts? c d = p.accepts? d c := by
  rw [accepts?, accepts?, nameScore?_comm, Cluster.compatible_comm]

/-- The policy accepts two clusters in either order or in none, and with the same score, for
every score of two texts is the same from both sides. -/
theorem accepts?_undirected :
    (∀ a b : List Char, ratio a b = ratio b a) ∧
      (∀ a b : List Char, wordSetRatio a b = wordSetRatio b a) ∧
        ∀ c d : Cluster, p.accepts? c d = p.accepts? d c :=
  ⟨ratio_comm, wordSetRatio_comm, p.accepts?_comm⟩

end Prosopography.MergePolicy
