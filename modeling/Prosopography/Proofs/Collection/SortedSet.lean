import Prosopography.Collection.SortedSet
import Mathlib.Data.List.Sort

/-!
# Sets from their own elements

The elements of a sorted set, put together again, make the same set. Elements that two sets
share stand in one order in both.
-/

namespace Prosopography.SortedSet

variable {α : Type} [Ord α] [Std.LawfulEqOrd α] [Std.TransOrd α]

omit [Std.LawfulEqOrd α] in
theorem place_of_forall_lt {a : α} {l : List α} (h : ∀ x ∈ l, compare x a = .lt) :
    place a l = l ++ [a] := by
  induction l with
  | nil => rfl
  | cons b l ih =>
      obtain ⟨hb, hl⟩ := List.forall_mem_cons.mp h
      rw [place, Std.OrientedCmp.gt_iff_lt.mpr hb]
      exact congrArg (b :: ·) (ih hl)

theorem toList_foldl_insert {l : List α} {s : SortedSet α}
    (h : (s.toList ++ l).Pairwise (compare · · = .lt)) :
    (l.foldl insert s).toList = s.toList ++ l := by
  induction l generalizing s with
  | nil => exact (List.append_nil _).symm
  | cons a l ih =>
      have hinsert : (s.insert a).toList = s.toList ++ [a] :=
        place_of_forall_lt fun x hx => (List.pairwise_append.mp h).2.2 x hx a List.mem_cons_self
      rw [List.foldl_cons, ih (by rwa [hinsert, ← List.append_cons]), hinsert, ← List.append_cons]

/-- The elements of a set are in the order in which a set keeps them. -/
theorem ofList_toList (s : SortedSet α) : ofList s.toList = s := by
  have hsame : (ofList s.toList).toList = s.toList := toList_foldl_insert (s := empty) s.sorted
  rw [mk.injEq]
  exact hsame

/-- What two sets share stands in one order in both. -/
theorem filter_contains_comm (s t : SortedSet α) :
    s.toList.filter t.contains = t.toList.filter s.contains := by
  have hantisymm : Std.Antisymm fun a b : α => compare a b = .lt :=
    ⟨fun _ _ hab hba => absurd hba (Std.OrientedCmp.not_lt_of_lt hab)⟩
  have hirrefl : Std.Irrefl fun a b : α => compare a b = .lt := ⟨by simp⟩
  apply List.Pairwise.eq_of_mem_iff (s.sorted.filter _) (t.sorted.filter _)
  intro a
  rw [List.mem_filter, List.mem_filter, contains_iff, contains_iff, and_comm]

end Prosopography.SortedSet
