/-!
# Sets of code points

A property of characters is kept as its closed ranges in increasing order.
Membership stops at the first range that starts past the code point.
-/

namespace Prosopography.Text

/-- Closed ranges of code points, in increasing order. -/
abbrev CodePoints := List (Nat × Nat)

namespace CodePoints

/-- Whether a code point lies in one of the ranges, which stand in ascending order. -/
def contains : CodePoints → Nat → Bool
  | [], _ => false
  | (lo, hi) :: rest, n => if n < lo then false else decide (n ≤ hi) || contains rest n

theorem exists_of_contains {ranges : CodePoints} {n : Nat} (h : ranges.contains n = true) :
    ∃ r ∈ ranges, r.1 ≤ n ∧ n ≤ r.2 := by
  induction ranges with
  | nil => simp [contains] at h
  | cons r rest ih =>
      obtain ⟨lo, hi⟩ := r
      by_cases hlo : n < lo
      · simp [contains, hlo] at h
      · by_cases hhi : n ≤ hi
        · exact ⟨(lo, hi), by simp, by omega, hhi⟩
        · have hrest : contains rest n = true := by simpa [contains, hlo, hhi] using h
          obtain ⟨r, hr, h₁⟩ := ih hrest
          exact ⟨r, List.mem_cons_of_mem _ hr, h₁⟩

end CodePoints

end Prosopography.Text
