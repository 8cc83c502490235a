import Prosopography.Collection.IndexedTable
import Prosopography.Proofs.Collection.FirstSeen
import Mathlib.Data.List.Forall2

/-!
# Rows and their positions

Rows with distinct keys that are inserted one after the other are all taken, in their
order, and no other row is in a table than those that were put into it. Of the rows added
under one key the first one stays. The position of a key is that of its row, and a key
that no row has is not found.
-/

namespace Prosopography.IndexedTable

variable {α : Type} {key : α → String}

@[simp] theorem length_toList (t : IndexedTable key) : t.toList.length = t.size :=
  Array.length_toList

theorem contains_iff {t : IndexedTable key} {k : String} :
    t.contains k = true ↔ ∃ a ∈ t.toList, key a = k := by
  rw [contains, Option.isSome_iff_ne_none, Ne, position?_eq_none_iff]
  simp [toList]

theorem get?_eq_none_iff {t : IndexedTable key} {k : String} :
    t.get? k = none ↔ ∀ a ∈ t.toList, key a ≠ k := by
  simp only [Option.eq_none_iff_forall_ne_some, Ne, get?_eq_some_iff, not_and]

theorem toList_add_of_fresh (t : IndexedTable key) (a : α) (h : ¬ t.contains (key a) = true) :
    (t.add a).toList = t.toList ++ [a] := by
  rw [toList_add, if_neg h]

theorem toList_put_of_fresh (t : IndexedTable key) (a : α) (h : ¬ t.contains (key a) = true) :
    (t.put a).toList = t.toList ++ [a] := by
  rw [contains, Option.not_isSome_iff_eq_none] at h
  rw [toList_put, h]

/-- Rows with keys of their own come behind each other, whatever is done with keys that are taken.
-/
theorem toList_foldl_of_fresh {ins : IndexedTable key → α → IndexedTable key}
    (hins : ∀ t a, ¬ t.contains (key a) = true → (ins t a).toList = t.toList ++ [a])
    {rows : List α} {t : IndexedTable key} (h : ((t.toList ++ rows).map key).Nodup) :
    (rows.foldl ins t).toList = t.toList ++ rows := by
  induction rows generalizing t with
  | nil => simp
  | cons a rest ih =>
      have hfresh : ¬ t.contains (key a) = true := by
        rw [contains_iff]
        rintro ⟨b, hb, hkey⟩
        rw [List.map_append, List.nodup_append] at h
        exact h.2.2 (key b) (List.mem_map_of_mem hb) (key a) (by simp) hkey
      have hrow := hins t a hfresh
      rw [List.foldl_cons, ih (by simpa [hrow] using h), hrow, List.append_assoc]
      rfl

/-- Rows with distinct keys make a table of these rows. -/
theorem toList_ofAdds {rows : List α} (h : (rows.map key).Nodup) :
    (ofAdds rows : IndexedTable key).toList = rows :=
  toList_foldl_of_fresh toList_add_of_fresh (t := empty) h

theorem toList_ofPuts {rows : List α} (h : (rows.map key).Nodup) :
    (ofPuts rows : IndexedTable key).toList = rows :=
  toList_foldl_of_fresh toList_put_of_fresh (t := empty) h

/-- The position of a key is the one at which it stands among the keys. -/
theorem position?_eq_some_iff_getElem? {t : IndexedTable key} {k : String} {i : Nat} :
    t.position? k = some i ↔ (t.toList.map key)[i]? = some k := by
  rw [position?_eq_some_iff, toList, List.getElem?_map, Array.getElem?_toList]

section Keys

theorem keys_add (t : IndexedTable key) (a : α) :
    (t.add a).toList.map key =
      if t.contains (key a) then t.toList.map key else t.toList.map key ++ [key a] := by
  rw [toList_add]
  split
  · rfl
  · rw [List.map_append, List.map_singleton]

/-- A row that replaces another one has its key. -/
theorem keys_put (t : IndexedTable key) (a : α) :
    (t.put a).toList.map key =
      if t.contains (key a) then t.toList.map key else t.toList.map key ++ [key a] := by
  rw [toList_put, contains]
  cases hp : t.position? (key a) with
  | none => simp
  | some i =>
      obtain ⟨hi, hkey⟩ := List.getElem?_eq_some_iff.mp (position?_eq_some_iff_getElem?.mp hp)
      simp only [List.map_set, ← hkey, List.set_getElem_self, Option.isSome_some, if_true]

/-- Keys stand in the order in which they are first inserted. -/
theorem keys_foldl {ins : IndexedTable key → α → IndexedTable key}
    (hins : ∀ t a, (ins t a).toList.map key =
      if t.contains (key a) then t.toList.map key else t.toList.map key ++ [key a])
    (rows : List α) : (rows.foldl ins empty).toList.map key = (rows.map key).eraseDups := by
  induction rows using List.reverseRecOn with
  | nil => rfl
  | append_singleton rows a ih =>
      have hheld : (rows.foldl ins empty).contains (key a) = (rows.map key).contains (key a) := by
        rw [Bool.eq_iff_iff, contains_iff, List.contains_iff_mem, ← List.mem_eraseDups, ← ih,
          List.mem_map]
      rw [List.foldl_concat, hins, hheld, ih, List.map_append, List.map_singleton,
        eraseDups_concat]

/-- Keys stand in the order in which they came first, if first rows stay. -/
theorem keys_ofAdds (rows : List α) :
    (ofAdds rows : IndexedTable key).toList.map key = (rows.map key).eraseDups :=
  keys_foldl keys_add rows

/-- Keys stand in the order in which they came first, if last rows stay. -/
theorem keys_ofPuts (rows : List α) :
    (ofPuts rows : IndexedTable key).toList.map key = (rows.map key).eraseDups :=
  keys_foldl keys_put rows

end Keys

section FirstRows

theorem ofAdds_concat (rows : List α) (a : α) :
    (ofAdds (rows ++ [a]) : IndexedTable key) = (ofAdds rows).add a :=
  List.foldl_concat add empty a rows

/-- An addition gives a key a row only if it had none. -/
theorem get?_add (t : IndexedTable key) (a : α) (k : String) :
    (t.add a).get? k = (t.get? k).or (if key a = k then some a else none) := by
  ext b
  rw [get?_eq_some_iff, toList_add, Option.or_eq_some_iff, get?_eq_some_iff, get?_eq_none_iff,
    Option.ite_none_right_eq_some, Option.some.injEq]
  split
  · rename_i hheld
    obtain ⟨c, hc, hkey⟩ := contains_iff.mp hheld
    constructor
    · exact .inl
    · rintro (hb | ⟨hnone, rfl, -⟩)
      · exact hb
      · exact absurd hkey (hnone c hc)
  · rename_i hfresh
    rw [contains_iff] at hfresh
    rw [List.mem_append, List.mem_singleton]
    constructor
    · rintro ⟨hb | rfl, hk⟩
      · exact .inl ⟨hb, hk⟩
      · exact .inr ⟨fun c hc hkey => hfresh ⟨c, hc, hkey.trans hk.symm⟩, hk, rfl⟩
    · rintro (⟨hb, hk⟩ | ⟨-, hk, rfl⟩)
      · exact ⟨.inl hb, hk⟩
      · exact ⟨.inr rfl, hk⟩

/-- The row of a key is the first one added under it. -/
theorem get?_ofAdds (rows : List α) (k : String) :
    (ofAdds rows : IndexedTable key).get? k = rows.find? (key · == k) := by
  induction rows using List.reverseRecOn with
  | nil => exact get?_eq_none_iff.mpr fun _ h => absurd h List.not_mem_nil
  | append_singleton rows a ih =>
      rw [ofAdds_concat, get?_add, ih, List.find?_append]
      congr 1
      by_cases hk : key a = k <;> simp [hk]

end FirstRows

section LastRows

/-- Only the row at the position of a key has this key. -/
theorem key_getElem_eq_iff {t : IndexedTable key} {k : String} {i j : Nat}
    (h : t.position? k = some i) (hj : j < t.toList.length) : key t.toList[j] = k ↔ i = j := by
  have hposition : t.position? k = some j ↔ key t.toList[j] = k := by
    rw [position?_eq_some_iff_getElem?, List.getElem?_map, List.getElem?_eq_getElem hj,
      Option.map_some, Option.some.injEq]
  rw [← hposition, h, Option.some.injEq]

/-- A row put into a table takes the place of the one with its key. -/
theorem mem_put_iff {t : IndexedTable key} {a x : α} :
    x ∈ (t.put a).toList ↔ x = a ∨ x ∈ t.toList ∧ key x ≠ key a := by
  rw [toList_put]
  cases hp : t.position? (key a) with
  | none =>
      have hfresh : ∀ b ∈ t.toList, key b ≠ key a := by
        simpa [toList] using (t.position?_eq_none_iff (key a)).mp hp
      rw [List.mem_append, List.mem_singleton, or_comm]
      exact or_congr_right (iff_self_and.mpr (hfresh x))
  | some i =>
      constructor
      · intro hx
        obtain ⟨j, hj, rfl⟩ := List.mem_iff_getElem.mp hx
        rw [List.length_set] at hj
        rw [List.getElem_set]
        split
        · exact .inl rfl
        · rename_i hij
          exact .inr ⟨List.getElem_mem hj, mt (key_getElem_eq_iff hp hj).mp hij⟩
      · rintro (rfl | ⟨hx, hne⟩)
        · obtain ⟨hi, -⟩ :=
            List.getElem?_eq_some_iff.mp (position?_eq_some_iff_getElem?.mp hp)
          exact List.mem_set (by rwa [List.length_map] at hi) x
        · obtain ⟨j, hj, rfl⟩ := List.mem_iff_getElem.mp hx
          refine List.mem_iff_getElem.mpr ⟨j, by rwa [List.length_set], ?_⟩
          exact List.getElem_set_ne (mt (key_getElem_eq_iff hp hj).mpr hne) _

/-- A replacement gives a key its row in any case. -/
theorem get?_put (t : IndexedTable key) (a : α) (k : String) :
    (t.put a).get? k = if key a = k then some a else t.get? k := by
  ext b
  rw [get?_eq_some_iff, mem_put_iff]
  split
  · rename_i hk
    subst hk
    rw [Option.some.injEq]
    constructor
    · rintro ⟨rfl | ⟨-, hne⟩, hb⟩
      · rfl
      · exact absurd hb hne
    · rintro rfl
      exact ⟨.inl rfl, rfl⟩
  · rename_i hk
    rw [get?_eq_some_iff]
    constructor
    · rintro ⟨rfl | ⟨hb, -⟩, hbk⟩
      · exact absurd hbk hk
      · exact ⟨hb, hbk⟩
    · rintro ⟨hb, rfl⟩
      exact ⟨.inr ⟨hb, Ne.symm hk⟩, rfl⟩

theorem ofPuts_concat (rows : List α) (a : α) :
    (ofPuts (rows ++ [a]) : IndexedTable key) = (ofPuts rows).put a :=
  List.foldl_concat put empty a rows

/-- The row of a key is the last one put under it. -/
theorem get?_ofPuts (rows : List α) (k : String) :
    (ofPuts rows : IndexedTable key).get? k = rows.findRev? (key · == k) := by
  induction rows using List.reverseRecOn with
  | nil => exact get?_eq_none_iff.mpr fun _ h => absurd h List.not_mem_nil
  | append_singleton rows a ih =>
      rw [ofPuts_concat, get?_put, ih, List.findRev?_eq_find?_reverse,
        List.findRev?_eq_find?_reverse, List.reverse_concat]
      split
      · rename_i hk
        exact (List.find?_cons_of_pos (by simpa using hk)).symm
      · rename_i hk
        exact (List.find?_cons_of_neg (by simpa using hk)).symm

end LastRows

theorem mem_of_mem_put {t : IndexedTable key} {a x : α} (h : x ∈ (t.put a).toList) :
    x = a ∨ x ∈ t.toList :=
  (mem_put_iff.mp h).imp_right And.left

theorem mem_of_mem_add {t : IndexedTable key} {a x : α} (h : x ∈ (t.add a).toList) :
    x = a ∨ x ∈ t.toList := by
  rw [toList_add] at h
  split at h
  · exact .inr h
  · rw [List.mem_append, List.mem_singleton] at h
    exact h.symm

theorem mem_of_mem_foldl {ins : IndexedTable key → α → IndexedTable key}
    (hins : ∀ t a x, x ∈ (ins t a).toList → x = a ∨ x ∈ t.toList) {rows : List α}
    {t : IndexedTable key} {x : α} (h : x ∈ (rows.foldl ins t).toList) :
    x ∈ rows ∨ x ∈ t.toList := by
  induction rows generalizing t with
  | nil => exact .inr h
  | cons a rows ih =>
      rcases ih h with h | h
      · exact .inl (List.mem_cons_of_mem a h)
      · rcases hins t a x h with rfl | h
        · exact .inl List.mem_cons_self
        · exact .inr h

/-- Every row of a table was put into it. -/
theorem mem_of_mem_ofPuts {rows : List α} {x : α}
    (h : x ∈ (ofPuts rows : IndexedTable key).toList) : x ∈ rows :=
  (mem_of_mem_foldl (fun _ _ _ => mem_of_mem_put) h).resolve_right List.not_mem_nil

theorem mem_of_mem_ofAdds {rows : List α} {x : α}
    (h : x ∈ (ofAdds rows : IndexedTable key).toList) : x ∈ rows :=
  (mem_of_mem_foldl (fun _ _ _ => mem_of_mem_add) h).resolve_right List.not_mem_nil

/-- The rows of a table have its positions, in order. -/
theorem forall₂_position? (t : IndexedTable key) :
    List.Forall₂ (fun a i => t.position? (key a) = some i) t.toList (List.range t.size) := by
  rw [List.forall₂_iff_get]
  refine ⟨by simp [toList, size], ?_⟩
  intro i hi hi'
  have hrow : i < t.rows.size := by simpa [toList] using hi
  simp [position?_eq_some_iff, toList, hrow]

section Perm

variable {t t' : IndexedTable key} (h : t.toList.Perm t'.toList)
include h

/-- Looking up a key does not depend on the order of the rows. -/
theorem get?_of_perm (k : String) : t.get? k = t'.get? k := by
  apply Option.ext
  intro a
  rw [get?_eq_some_iff, get?_eq_some_iff, h.mem_iff]

theorem contains_of_perm (k : String) : t.contains k = t'.contains k := by
  rw [Bool.eq_iff_iff, contains_iff, contains_iff]
  exact exists_congr fun a => and_congr_left' h.mem_iff

end Perm

end Prosopography.IndexedTable
