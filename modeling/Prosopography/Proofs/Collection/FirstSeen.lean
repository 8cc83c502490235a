import Mathlib.Data.List.Basic
import Mathlib.Data.List.Induction

/-!
# First occurrences

A list without its repetitions keeps the first occurrence of every element. An element that is
added at the end is kept if it is new, so the elements stand in the order of their first
positions.
-/

namespace Prosopography

variable {α : Type} [BEq α] [LawfulBEq α]

/-- A last element stays exactly if it has not been seen. -/
theorem eraseDups_concat (l : List α) (a : α) :
    (l ++ [a]).eraseDups = if l.contains a then l.eraseDups else l.eraseDups ++ [a] := by
  rw [List.eraseDups_append]
  by_cases h : a ∈ l
  · simp [List.removeAll, h]
  · simp [List.removeAll, h, List.eraseDups_cons]

/-- First occurrences stand in the order of their positions. -/
theorem pairwise_idxOf_eraseDups (l : List α) :
    l.eraseDups.Pairwise fun a b => l.idxOf a < l.idxOf b := by
  induction l using List.reverseRecOn with
  | nil => exact .nil
  | append_singleton l a ih =>
      have hold : ∀ {b : α}, b ∈ l → (l ++ [a]).idxOf b = l.idxOf b := fun hb =>
        List.idxOf_append.trans (if_pos hb)
      have hkept : l.eraseDups.Pairwise fun b c => (l ++ [a]).idxOf b < (l ++ [a]).idxOf c := by
        refine ih.imp_of_mem fun hb hc hlt => ?_
        rwa [hold (List.mem_eraseDups.mp hb), hold (List.mem_eraseDups.mp hc)]
      rw [eraseDups_concat]
      split
      · exact hkept
      · rename_i hnew
        have hnew : a ∉ l := by simpa using hnew
        rw [List.pairwise_append]
        refine ⟨hkept, List.pairwise_singleton _ a, fun b hb c hc => ?_⟩
        obtain rfl := List.mem_singleton.mp hc
        have hb := List.mem_eraseDups.mp hb
        rw [hold hb, List.idxOf_append, if_neg hnew]
        exact Nat.lt_add_left _ (List.idxOf_lt_length_of_mem hb)

theorem nodup_eraseDups (l : List α) : l.eraseDups.Nodup := by
  refine (pairwise_idxOf_eraseDups l).imp fun hlt => ?_
  rintro rfl
  exact Nat.lt_irrefl _ hlt

end Prosopography
