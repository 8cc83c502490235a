import Prosopography.Proofs.Collection.SortedSet
import Prosopography.Proofs.Name.CommonSubsequence
import Mathlib.Algebra.Order.Ring.Unbundled.Rat

/-!
# Similarity has no direction

The table of lengths is filled row by row and the words of two texts are compared from either
side, but no score depends on which of two texts comes first.
-/

namespace Prosopography.Similarity

theorem commonLengths_comm (a b : List Char) : commonLengths a b = commonLengths b a := by
  ext n
  constructor
  · rintro ⟨s, hsa, hsb, hs⟩
    exact ⟨s, hsb, hsa, hs⟩
  · rintro ⟨s, hsb, hsa, hs⟩
    exact ⟨s, hsa, hsb, hs⟩

/-- The common length does not depend on the side. -/
theorem commonLength_comm (a b : List Char) : commonLength a b = commonLength b a := by
  apply Nat.le_antisymm
  · exact le_commonLength (commonLengths_comm a b ▸ commonLength_mem a b)
  · exact le_commonLength (commonLengths_comm b a ▸ commonLength_mem b a)

/-- The ratio does not depend on the side. -/
theorem ratio_comm (a b : List Char) : ratio a b = ratio b a := by
  rw [ratio, ratio, commonLength_comm, Nat.add_comm]

/-- The loop for the greatest ratio takes the maximum. -/
theorem greatest_eq_foldl_max (first : Rat) (rest : List Rat) :
    greatest first rest = rest.foldl max first := by
  have hmax : (fun best s : Rat => if best < s then s else best) = max := by
    funext best s
    exact (max_def_lt best s).symm
  rw [greatest, hmax]

theorem greatest_pair_comm (first s t : Rat) : greatest first [s, t] = greatest first [t, s] := by
  simp only [greatest_eq_foldl_max, List.foldl_cons, List.foldl_nil, max_right_comm]

/-- Both sides see the same common words, and each side's own words change places with the
other's. -/
theorem wordSetRatio_comm (a b : List Char) : wordSetRatio a b = wordSetRatio b a := by
  have hcommon : (wordSet a).toList.filter (wordSet b).contains =
      (wordSet b).toList.filter (wordSet a).contains := SortedSet.filter_contains_comm ..
  simp only [wordSetRatio, hcommon, Bool.or_comm (wordSet a).isEmpty]
  split
  · rfl
  · rw [Bool.or_comm (List.isEmpty _)]
    split
    · rfl
    · rw [ratio_comm (joined (_ ++ List.filter (!(wordSet b).contains ·) _)), greatest_pair_comm]

end Prosopography.Similarity
