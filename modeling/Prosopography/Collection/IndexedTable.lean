import Std.Data.TreeMap.Lemmas

/-!
# Indexed tables

Rows in order of first insertion, one for each key, with the position of every
key kept in an index. A row whose key is present either replaces the present
row in its place (`put`) or is not taken (`add`).
-/

namespace Prosopography

/-- Rows in the order in which they came, with the position of each key. -/
structure IndexedTable {α : Type} (key : α → String) where
  rows : Array α
  index : Std.TreeMap String Nat
  index_eq_some_iff : ∀ k i, index[k]? = some i ↔ rows[i]?.map key = some k

namespace IndexedTable

variable {α : Type} {key : α → String}

/-- The table without rows. -/
def empty : IndexedTable key where
  rows := #[]
  index := ∅
  index_eq_some_iff := by simp

instance : Inhabited (IndexedTable key) := ⟨empty⟩

/-- The rows in order. -/
def toList (t : IndexedTable key) : List α := t.rows.toList

/-- The number of rows. -/
def size (t : IndexedTable key) : Nat := t.rows.size

/-- Whether there are no rows. -/
def isEmpty (t : IndexedTable key) : Bool := t.rows.isEmpty

/-- Position of the row with key `k`. -/
def position? (t : IndexedTable key) (k : String) : Option Nat := t.index[k]?

/-- The row of a key. -/
def get? (t : IndexedTable key) (k : String) : Option α :=
  (t.position? k).bind (t.rows[·]?)

/-- Whether a key has a row. -/
def contains (t : IndexedTable key) (k : String) : Bool := (t.position? k).isSome

/-- The index has the position of a key exactly where the row of that key stands. -/
theorem position?_eq_some_iff (t : IndexedTable key) (k : String) (i : Nat) :
    t.position? k = some i ↔ t.rows[i]?.map key = some k :=
  t.index_eq_some_iff k i

/-- The index has no position of a key exactly when no row has it. -/
theorem position?_eq_none_iff (t : IndexedTable key) (k : String) :
    t.position? k = none ↔ ∀ a ∈ t.rows, key a ≠ k := by
  constructor
  · intro h a ha hk
    obtain ⟨i, hi, rfl⟩ := Array.mem_iff_getElem.mp ha
    have := (t.position?_eq_some_iff k i).mpr (by simp [hi, hk])
    simp [h] at this
  · intro h
    cases hp : t.position? k with
    | none => rfl
    | some i =>
        have := (t.position?_eq_some_iff k i).mp hp
        cases hr : t.rows[i]? with
        | none => simp [hr] at this
        | some a =>
            simp only [hr, Option.map_some, Option.some.injEq] at this
            exact absurd this (h a (Array.mem_of_getElem? hr))

/-- Adds a row at the end; its key must be new. -/
def push (t : IndexedTable key) (a : α) (fresh : t.position? (key a) = none) :
    IndexedTable key where
  rows := t.rows.push a
  index := t.index.insert (key a) t.rows.size
  index_eq_some_iff := by
    intro k i
    have hold := t.index_eq_some_iff k i
    have hnew := (t.position?_eq_none_iff (key a)).mp fresh
    rw [Std.TreeMap.getElem?_insert, Array.getElem?_push]
    by_cases hk : key a = k
    · subst hk
      by_cases hi : i = t.rows.size
      · simp [hi]
      · have hnone : t.index[key a]? = none := fresh
        simp only [Std.ReflCmp.compare_self, if_true, hi, if_false, Option.some.injEq]
        constructor
        · intro h; exact absurd h.symm hi
        · intro h
          rw [hnone] at hold
          exact absurd (hold.mpr h) (by simp)
    · have hne : compare (key a) k ≠ .eq := fun h => hk (Std.LawfulEqCmp.eq_of_compare h)
      simp only [hne, if_false]
      by_cases hi : i = t.rows.size
      · subst hi
        simp only [if_true, Option.map_some, Option.some.injEq]
        rw [hold]
        simp [hk]
      · simpa [hi] using hold

/-- Replaces the row at a position by one with the same key. -/
def replaceAt (t : IndexedTable key) (a : α) (i : Nat) (held : t.position? (key a) = some i) :
    IndexedTable key where
  rows := t.rows.setIfInBounds i a
  index := t.index
  index_eq_some_iff := by
    intro k j
    have hold := t.index_eq_some_iff k j
    have hkey := (t.position?_eq_some_iff (key a) i).mp held
    rw [hold, Array.getElem?_setIfInBounds]
    by_cases hij : i = j
    · subst hij
      rw [hkey]
      have hi : i < t.rows.size := by
        cases hr : t.rows[i]? with
        | none => simp [hr] at hkey
        | some b => exact (Array.getElem?_eq_some_iff.mp hr).1
      simp [hi]
    · simp [hij]

/-- Inserts a row; a row with the same key is replaced in its place. -/
def put (t : IndexedTable key) (a : α) : IndexedTable key :=
  match h : t.position? (key a) with
  | some i => t.replaceAt a i h
  | none => t.push a h

/-- Inserts a row unless one with the same key is present. -/
def add (t : IndexedTable key) (a : α) : IndexedTable key :=
  match h : t.position? (key a) with
  | some _ => t
  | none => t.push a h

/-- The table of some rows, of which the last of each key stays. -/
def ofPuts (rows : List α) : IndexedTable key := rows.foldl put empty

/-- The table of some rows, of which the first of each key stays. -/
def ofAdds (rows : List α) : IndexedTable key := rows.foldl add empty

@[simp] theorem toList_empty : (empty : IndexedTable key).toList = [] := rfl

/-- A row whose key is taken changes nothing; any other comes last. -/
theorem toList_add (t : IndexedTable key) (a : α) :
    (t.add a).toList = if t.contains (key a) then t.toList else t.toList ++ [a] := by
  unfold add contains
  split <;> rename_i h <;> simp [h, toList, push]

/-- A row whose key is taken takes the place of the old one; any other comes last. -/
theorem toList_put (t : IndexedTable key) (a : α) :
    (t.put a).toList =
      match t.position? (key a) with
      | some i => t.toList.set i a
      | none => t.toList ++ [a] := by
  unfold put
  split <;> rename_i h <;> simp [h, toList, push, replaceAt]

/-- A key leads to a row exactly if the row is in the table under this key. -/
theorem get?_eq_some_iff (t : IndexedTable key) (k : String) (a : α) :
    t.get? k = some a ↔ a ∈ t.toList ∧ key a = k := by
  unfold get?
  constructor
  · intro h
    cases hp : t.position? k with
    | none => simp [hp] at h
    | some i =>
        have hr : t.rows[i]? = some a := by simpa [hp] using h
        have hk := (t.position?_eq_some_iff k i).mp hp
        refine ⟨by simpa [toList] using Array.mem_of_getElem? hr, ?_⟩
        simpa [hr] using hk
  · rintro ⟨ha, hk⟩
    obtain ⟨i, hi, hget⟩ := Array.mem_iff_getElem.mp (by simpa [toList] using ha)
    have hp := (t.position?_eq_some_iff k i).mpr (by simp [hi, hget, hk])
    simp [hp, hi, hget]

/-- No two rows share a key. -/
theorem nodup_keys (t : IndexedTable key) : (t.toList.map key).Nodup := by
  rw [List.nodup_iff_pairwise_ne, List.pairwise_iff_getElem]
  intro i j hi hj hij heq
  simp only [toList, List.length_map, Array.length_toList] at hi hj
  simp only [toList, List.getElem_map, Array.getElem_toList] at heq
  have h₁ := (t.position?_eq_some_iff (key t.rows[i]) i).mpr (by simp [hi])
  have h₂ := (t.position?_eq_some_iff (key t.rows[i]) j).mpr (by simp [hj, heq])
  rw [h₁] at h₂
  simp only [Option.some.injEq] at h₂
  omega

end IndexedTable

end Prosopography
