/-!
# Sorted sets

A finite set as the strictly increasing list of its elements, so that sets with
the same elements are equal.
-/

namespace Prosopography

/-- Elements in ascending order, each of them once. -/
structure SortedSet (α : Type) [Ord α] where
  toList : List α
  sorted : toList.Pairwise (compare · · = .lt)

namespace SortedSet

variable {α : Type} [Ord α]

/-- The set without elements. -/
def empty : SortedSet α := ⟨[], .nil⟩

instance : Inhabited (SortedSet α) := ⟨empty⟩

/-- Whether there are no elements. -/
def isEmpty (s : SortedSet α) : Bool := s.toList.isEmpty

/-- The number of elements. -/
def size (s : SortedSet α) : Nat := s.toList.length

/-- Whether an element is in the set. -/
def contains (s : SortedSet α) (a : α) : Bool := s.toList.any (compare a · == .eq)

/-- Puts an element at its place in a sorted list that may hold it already. -/
def place (a : α) : List α → List α
  | [] => [a]
  | b :: l =>
    match compare a b with
    | .lt => a :: b :: l
    | .eq => b :: l
    | .gt => b :: place a l

@[simp] theorem toList_empty : (empty : SortedSet α).toList = [] := rfl

variable [Std.LawfulEqOrd α]

@[simp] theorem contains_iff {s : SortedSet α} {a : α} : s.contains a = true ↔ a ∈ s.toList := by
  simp [contains, List.any_eq_true]

theorem mem_place {a x : α} {l : List α} : x ∈ place a l ↔ x = a ∨ x ∈ l := by
  induction l with
  | nil => simp [place]
  | cons b l ih =>
      rw [place]
      split
      · simp
      · rename_i h
        have := Std.LawfulEqCmp.eq_of_compare h
        subst this
        simp
      · rw [List.mem_cons, ih, List.mem_cons]
        exact or_left_comm

variable [Std.TransOrd α]

/-- Placing an element keeps the elements in ascending order. -/
theorem pairwise_place {a : α} {l : List α} (h : l.Pairwise (compare · · = .lt)) :
    (place a l).Pairwise (compare · · = .lt) := by
  induction l with
  | nil => simp [place]
  | cons b l ih =>
      rw [place]
      obtain ⟨hb, hl⟩ := List.pairwise_cons.mp h
      split
      · rename_i hab
        refine List.pairwise_cons.mpr ⟨?_, h⟩
        intro x hx
        rcases List.mem_cons.mp hx with rfl | hx
        · exact hab
        · exact Std.TransCmp.lt_trans hab (hb x hx)
      · exact h
      · rename_i hab
        refine List.pairwise_cons.mpr ⟨?_, ih hl⟩
        intro x hx
        rcases mem_place.mp hx with rfl | hx
        · exact Std.OrientedCmp.gt_iff_lt.mp hab
        · exact hb x hx

/-- The set with one element more, if it was not there. -/
def insert (s : SortedSet α) (a : α) : SortedSet α := ⟨place a s.toList, pairwise_place s.sorted⟩

/-- The set of the elements of a list. -/
def ofList (l : List α) : SortedSet α := l.foldl insert empty

/-- The set of the elements of both sets. -/
def union (s t : SortedSet α) : SortedSet α := t.toList.foldl insert s

/-- Whether the sets share no element. -/
def disjoint (s t : SortedSet α) : Bool := s.toList.all (!t.contains ·)

theorem mem_insert {s : SortedSet α} {a x : α} : x ∈ (s.insert a).toList ↔ x = a ∨ x ∈ s.toList :=
  mem_place

theorem mem_foldl_insert {l : List α} {s : SortedSet α} {x : α} :
    x ∈ (l.foldl insert s).toList ↔ x ∈ s.toList ∨ x ∈ l := by
  induction l generalizing s with
  | nil => simp
  | cons a l ih =>
      rw [List.foldl_cons, ih, mem_insert, List.mem_cons]
      constructor
      · rintro ((h | h) | h)
        · exact .inr (.inl h)
        · exact .inl h
        · exact .inr (.inr h)
      · rintro (h | h | h)
        · exact .inl (.inr h)
        · exact .inl (.inl h)
        · exact .inr h

@[simp] theorem mem_ofList {l : List α} {x : α} : x ∈ (ofList l).toList ↔ x ∈ l := by
  simp [ofList, mem_foldl_insert]

@[simp] theorem mem_union {s t : SortedSet α} {x : α} :
    x ∈ (s.union t).toList ↔ x ∈ s.toList ∨ x ∈ t.toList :=
  mem_foldl_insert

omit [Std.TransOrd α] in
theorem disjoint_iff {s t : SortedSet α} :
    s.disjoint t = true ↔ ∀ a ∈ s.toList, a ∉ t.toList := by
  simp only [disjoint, List.all_eq_true, Bool.not_eq_true', ← Bool.not_eq_true, contains_iff]

end SortedSet

end Prosopography
