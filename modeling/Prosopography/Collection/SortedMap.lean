/-!
# Sorted maps

A finite map from texts as its entries in strictly increasing order of keys, so
that maps with the same look-ups are equal. Inserting under a present key
replaces its value.
-/

namespace Prosopography

/-- Entries in ascending order of their keys, one for each key. -/
structure SortedMap (β : Type) where
  entries : List (String × β)
  sorted : entries.Pairwise (·.1 < ·.1)

namespace SortedMap

variable {β : Type}

/-- The map without entries. -/
def empty : SortedMap β := ⟨[], .nil⟩

instance : Inhabited (SortedMap β) := ⟨empty⟩

/-- The entries in order. -/
def toList (m : SortedMap β) : List (String × β) := m.entries

/-- The keys in order. -/
def keys (m : SortedMap β) : List String := m.entries.map (·.1)

/-- The values in the order of their keys. -/
def values (m : SortedMap β) : List β := m.entries.map (·.2)

/-- Whether there are no entries. -/
def isEmpty (m : SortedMap β) : Bool := m.entries.isEmpty

/-- Puts a value under its key in a sorted list of entries. -/
def place (k : String) (v : β) : List (String × β) → List (String × β)
  | [] => [(k, v)]
  | e :: l =>
    if k < e.1 then (k, v) :: e :: l
    else if k = e.1 then (k, v) :: l
    else e :: place k v l

theorem key_mem_place {k : String} {v : β} {l : List (String × β)} {x : String × β}
    (h : x ∈ place k v l) : x.1 = k ∨ x ∈ l := by
  induction l with
  | nil => simp [place] at h; simp [h]
  | cons e l ih =>
      rw [place] at h
      split at h
      · rcases List.mem_cons.mp h with rfl | h
        · exact .inl rfl
        · exact .inr h
      · split at h
        · rcases List.mem_cons.mp h with rfl | h
          · exact .inl rfl
          · exact .inr (List.mem_cons_of_mem _ h)
        · rcases List.mem_cons.mp h with rfl | h
          · exact .inr (List.mem_cons_self ..)
          · exact (ih h).imp_right (List.mem_cons_of_mem _)

/-- Placing an entry keeps the keys in ascending order. -/
theorem pairwise_place {k : String} {v : β} {l : List (String × β)}
    (h : l.Pairwise (·.1 < ·.1)) : (place k v l).Pairwise (·.1 < ·.1) := by
  induction l with
  | nil => simp [place]
  | cons e l ih =>
      rw [place]
      obtain ⟨he, hl⟩ := List.pairwise_cons.mp h
      split
      · rename_i hlt
        refine List.pairwise_cons.mpr ⟨?_, h⟩
        intro x hx
        rcases List.mem_cons.mp hx with rfl | hx
        · exact hlt
        · exact String.lt_trans hlt (he x hx)
      · split
        · rename_i heq
          subst heq
          exact List.pairwise_cons.mpr ⟨he, hl⟩
        · rename_i hlt hne
          refine List.pairwise_cons.mpr ⟨?_, ih hl⟩
          intro x hx
          rcases key_mem_place hx with hk | hx
          · rw [hk]
            have hle : e.1 ≤ k := String.not_lt.mp hlt
            exact Std.lt_of_le_of_ne hle (fun h => hne h.symm)
          · exact he x hx

/-- The map with a value for a key in place of the value it had. -/
def insert (m : SortedMap β) (k : String) (v : β) : SortedMap β :=
  ⟨place k v m.entries, pairwise_place m.sorted⟩

/-- The value of a key. -/
def find? (m : SortedMap β) (k : String) : Option β :=
  (m.entries.find? (·.1 == k)).map (·.2)

/-- Whether a key has a value. -/
def contains (m : SortedMap β) (k : String) : Bool := m.entries.any (·.1 == k)

/-- The map of some entries, of which the last of each key counts. -/
def ofList (l : List (String × β)) : SortedMap β := l.foldl (fun m e => m.insert e.1 e.2) empty

theorem find?_place {k : String} {v : β} {l : List (String × β)} (k' : String) :
    (place k v l).find? (·.1 == k') = if k = k' then some (k, v) else l.find? (·.1 == k') := by
  induction l with
  | nil => by_cases h : k = k' <;> simp [place, h]
  | cons e l ih =>
      rw [place]
      by_cases h : k = k'
      · subst h
        by_cases hlt : k < e.1
        · simp [hlt]
        · by_cases heq : k = e.1
          · simp [← heq]
          · have : e.1 ≠ k := fun h => heq h.symm
            simpa [hlt, heq, this] using ih
      · by_cases hlt : k < e.1
        · simp [hlt, h]
        · by_cases heq : k = e.1
          · have : e.1 ≠ k' := fun he => h (heq.trans he)
            simp [heq, this]
          · rw [if_neg hlt, if_neg heq, List.find?_cons, List.find?_cons, ih, if_neg h, if_neg h]

@[simp] theorem find?_empty (k : String) : (empty : SortedMap β).find? k = none := rfl

/-- An insertion changes the value of its key and of no other. -/
theorem find?_insert (m : SortedMap β) (k : String) (v : β) (k' : String) :
    (m.insert k v).find? k' = if k = k' then some v else m.find? k' := by
  by_cases h : k = k' <;> simp [find?, insert, find?_place, h]

end SortedMap

end Prosopography
