import Prosopography.Mention.Basic
import Prosopography.Person.Basic
import Prosopography.Proofs.Collection.IndexedTable
import Prosopography.Trial.Basic
import Mathlib.Data.List.Nodup

/-!
# Tables and their histories

Reading a table does not change it, so a table is told by the rows that were given to it,
in order. Keys stand in the order in which they were first given. Of several rows under one
key the table of mentions has the last, the table of trials and the attribution have the
first. The index never departs from the rows.
-/

namespace Prosopography

namespace IndexedTable

variable {α : Type} {key : α → String}

/-- A table with certain keys in order, a certain row under each, and an index of these rows. -/
structure Shows (t : IndexedTable key) (keys : List String) (row? : String → Option α) :
    Prop where
  keys_eq : t.toList.map key = keys
  rows_eq : t.toList.map some = keys.map row?
  get?_eq : ∀ k, t.get? k = row? k
  /-- One entry for each row: its key and its position. -/
  indexed : t.index.toList.Perm (t.toList.map key).zipIdx

theorem mem_index_iff {t : IndexedTable key} {e : String × Nat} :
    e ∈ t.index.toList ↔ e ∈ (t.toList.map key).zipIdx := by
  rw [Std.TreeMap.mem_toList_iff_getElem?_eq_some, List.mem_zipIdx_iff_getElem?]
  exact position?_eq_some_iff_getElem?

/-- The index has one entry for each row, with its key and position. -/
theorem index_perm (t : IndexedTable key) : t.index.toList.Perm (t.toList.map key).zipIdx := by
  have hindex : t.index.toList.Nodup := by
    apply Std.TreeMap.distinct_keys_toList.imp
    rintro a b hne rfl
    exact hne Std.ReflCmp.compare_self
  have hrows : (t.toList.map key).zipIdx.Nodup := by
    apply List.Nodup.of_map Prod.fst
    rw [List.zipIdx_map_fst]
    exact t.nodup_keys
  exact (List.perm_ext_iff_of_nodup hindex hrows).mpr fun _ => mem_index_iff

/-- A table shows its own rows. -/
theorem shows_get? (t : IndexedTable key) : t.Shows (t.toList.map key) t.get? where
  keys_eq := rfl
  rows_eq := by
    rw [List.map_map]
    apply List.map_congr_left
    intro a ha
    exact ((t.get?_eq_some_iff (key a) a).mpr ⟨ha, rfl⟩).symm
  get?_eq _ := rfl
  indexed := t.index_perm

/-- Replacing rows: keys stand where they came first and have their last row. -/
theorem shows_ofPuts (rows : List α) :
    (ofPuts rows : IndexedTable key).Shows (rows.map key).eraseDups
      fun k => rows.findRev? (key · == k) := by
  rw [← keys_ofPuts, ← funext (get?_ofPuts rows)]
  exact shows_get? _

/-- Keeping rows: keys stand where they came first and have their first row. -/
theorem shows_ofAdds (rows : List α) :
    (ofAdds rows : IndexedTable key).Shows (rows.map key).eraseDups
      fun k => rows.find? (key · == k) := by
  rw [← keys_ofAdds, ← funext (get?_ofAdds rows)]
  exact shows_get? _

theorem contains_ofAdds_iff {rows : List α} {k : String} :
    (ofAdds rows : IndexedTable key).contains k = true ↔ k ∈ rows.map key := by
  rw [contains_iff, ← List.mem_map, keys_ofAdds, List.mem_eraseDups]

/-- A row under a key that is held is not taken. -/
theorem add_of_contains {t : IndexedTable key} {a : α} (h : t.contains (key a) = true) :
    t.add a = t := by
  unfold add
  split
  · rfl
  · rename_i hnone
    simp [contains, hnone] at h

end IndexedTable

/-- The table of mentions after some were inserted: of each name it has the last. -/
def MentionTable.FollowsHistory (given : List Mention) (t : MentionTable) : Prop :=
  t.Shows (given.map (·.name)).eraseDups fun name => given.findRev? (·.name == name)

/-- The table of trials after some were inserted: of each identifier it has the first. -/
structure TrialTable.FollowsHistory (given : List Trial) (t : TrialTable) : Prop where
  shows : t.Shows (given.map (·.id)).eraseDups fun id => given.find? (·.id == id)
  insert_snd : ∀ trial, (t.insert trial).2 = true ↔ trial.id ∉ given.map (·.id)
  insert_fst : ∀ trial, trial.id ∈ given.map (·.id) → (t.insert trial).1 = t

/-- The attribution after some assignments: each name has the first identifier. -/
structure Attribution.FollowsHistory (given : List (String × PersonId)) (t : Attribution) :
    Prop where
  shows : t.Shows (given.map (·.1)).eraseDups fun name => given.find? (·.1 == name)
  idOf?_eq : ∀ name, t.idOf? name = (given.find? (·.1 == name)).map (·.2)
  assign_snd : ∀ name id, (t.assign name id).2 = (given.find? (·.1 == name)).map (·.2)
  assign_fst : ∀ name id, name ∈ given.map (·.1) → (t.assign name id).1 = t

/-- An insertion tells whether the trial was new. -/
theorem TrialTable.insert_new_iff {t : TrialTable} {trial : Trial} :
    (t.insert trial).2 = true ↔ ¬ t.contains trial.id = true := by
  simp [TrialTable.insert]

/-- The table of trials follows any history of insertions. -/
theorem TrialTable.followsHistory (given : List Trial) :
    FollowsHistory given (given.foldl (fun t trial => (t.insert trial).1) .empty) where
  shows := IndexedTable.shows_ofAdds given
  insert_snd _ := insert_new_iff.trans (not_congr IndexedTable.contains_ofAdds_iff)
  insert_fst _ h := IndexedTable.add_of_contains (IndexedTable.contains_ofAdds_iff.mpr h)

/-- The attribution follows any history of assignments. -/
theorem Attribution.followsHistory (given : List (String × PersonId)) :
    FollowsHistory given (given.foldl (fun t e => (t.assign e.1 e.2).1) .empty) where
  shows := IndexedTable.shows_ofAdds given
  idOf?_eq name := congrArg (Option.map _) (IndexedTable.get?_ofAdds given name)
  assign_snd name _ := congrArg (Option.map _) (IndexedTable.get?_ofAdds given name)
  assign_fst _ _ h := IndexedTable.add_of_contains (IndexedTable.contains_ofAdds_iff.mpr h)

/-- Whatever is inserted and assigned, in whatever order, the tables follow it. -/
theorem tables_followHistories :
    (∀ given, MentionTable.FollowsHistory given (given.foldl IndexedTable.put .empty)) ∧
      (∀ given, TrialTable.FollowsHistory given
        (given.foldl (fun t trial => (t.insert trial).1) .empty)) ∧
      ∀ given, Attribution.FollowsHistory given
        (given.foldl (fun t e => (t.assign e.1 e.2).1) .empty) := by
  refine ⟨?_, ?_, ?_⟩
  · exact IndexedTable.shows_ofPuts
  · exact TrialTable.followsHistory
  · exact Attribution.followsHistory

end Prosopography
