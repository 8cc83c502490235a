import Prosopography.Json.Reader
import Prosopography.Proofs.Mention.Record
import Prosopography.Proofs.Store.Tables

/-!
# Each row for itself

Whether a row of a table can be read, and what is read of it, does not depend on the other rows.
Mentions have distinct names, so that each is either in the table or set aside. Of the trials
with one identifier the first that can be read is in the table; those that cannot be read are
set aside and stand in the way of none.
-/

namespace Prosopography

open Json

/-- The records of a table of mentions are read one by one. -/
structure ReadsMentions (fields : Fields) (rows : Rows MentionTable Mention.Malformed) : Prop where
  /-- The rows of the table are those that can be read, in their order. -/
  table_rows : List.Forall₂ (fun m f => Mention.ofRecord f.1 f.2 = .ok m) rows.table.toList
    (fields.toList.filter fun f => (Mention.ofRecord f.1 f.2).isOk)
  /-- The others are set aside, in their order. -/
  malformed_rows : List.Forall₂ (fun e f => Mention.ofRecord f.1 f.2 = .error e) rows.malformed
    (fields.toList.filter fun f => !(Mention.ofRecord f.1 f.2).isOk)
  parted : ∀ f ∈ fields.toList,
    Xor (rows.table.contains f.1 = true) (∃ e ∈ rows.malformed, e.name = f.1)
  get?_iff : ∀ f ∈ fields.toList, ∀ m,
    rows.table.get? f.1 = some m ↔ Mention.ofRecord f.1 f.2 = .ok m
  malformed_iff : ∀ f ∈ fields.toList, ∀ e,
    e ∈ rows.malformed ∧ e.name = f.1 ↔ Mention.ofRecord f.1 f.2 = .error e

/-- A trial that is read from a record before which none with the same identifier can be read. -/
def FirstRead (records : List (Option String × Json)) (t : Trial) : Prop :=
  ∃ before r after, records = before ++ r :: after ∧ Trial.ofRecord r.1 r.2 = .ok t ∧
    ∀ b ∈ before, ∀ t', Trial.ofRecord b.1 b.2 = .ok t' → t'.id ≠ t.id

/-- The records of a table of trials are read one by one; each may have a key. -/
structure ReadsTrials (records : List (Option String × Json))
    (rows : Rows TrialTable Trial.Malformed) : Prop where
  malformed_rows : List.Forall₂ (fun e r => Trial.ofRecord r.1 r.2 = .error e) rows.malformed
    (records.filter fun r => !(Trial.ofRecord r.1 r.2).isOk)
  /-- The identifiers are those of the rows that can be read, in the order of their first ones. -/
  ids : rows.table.toList.map (·.id) =
    ((records.filterMap fun r => (Trial.ofRecord r.1 r.2).toOption).map (·.id)).eraseDups
  mem_iff : ∀ t, t ∈ rows.table.toList ↔ FirstRead records t
  /-- A row that can be read has its identifier in the table. -/
  held : ∀ r ∈ records, ∀ t, Trial.ofRecord r.1 r.2 = .ok t → rows.table.contains t.id = true

section Mentions

/-- The name that a mention was read for, whether it could be read or not. -/
def nameRead : Except Mention.Malformed Mention → String
  | .ok m => m.name
  | .error e => e.name

theorem nameRead_ofRecord (name : String) (record : Json) :
    nameRead (Mention.ofRecord name record) = name := by
  cases h : Mention.ofRecord name record with
  | ok m => exact Mention.name_of_ofRecord h
  | error e => exact Mention.name_of_ofRecord_error h

variable (fields : Fields)

/-- What is read of each record of a table of mentions. -/
def mentionReads : List (Except Mention.Malformed Mention) :=
  fields.toList.map fun f => Mention.ofRecord f.1 f.2

theorem nodup_accepted_mentions : ((accepted (mentionReads fields)).map (·.name)).Nodup := by
  have hreads : List.Forall₂ (fun m f => Mention.ofRecord f.1 f.2 = .ok m)
      (accepted (mentionReads fields))
      (fields.toList.filter fun f => (Mention.ofRecord f.1 f.2).isOk) :=
    forall₂_accepted _
  have hnames : (accepted (mentionReads fields)).map (·.name) =
      (fields.toList.filter fun f => (Mention.ofRecord f.1 f.2).isOk).map (·.1) := by
    rw [← List.forall₂_eq_eq_eq, List.forall₂_map_left_iff, List.forall₂_map_right_iff]
    exact hreads.imp fun _ _ => Mention.name_of_ofRecord
  rw [hnames]
  exact fields.nodup_keys.sublist (List.filter_sublist.map _)

variable {fields}

/-- Among what was read, a name tells from which record it was read. -/
theorem mem_mentionReads_iff {f : String × Json} (hf : f ∈ fields.toList)
    {x : Except Mention.Malformed Mention} :
    x ∈ mentionReads fields ∧ nameRead x = f.1 ↔ Mention.ofRecord f.1 f.2 = x := by
  rw [mentionReads, List.mem_map]
  constructor
  · rintro ⟨⟨g, hg, rfl⟩, hname⟩
    rw [nameRead_ofRecord] at hname
    obtain rfl : g = f := List.inj_on_of_nodup_map fields.nodup_keys hg hf hname
    rfl
  · rintro rfl
    exact ⟨⟨f, hf, rfl⟩, nameRead_ofRecord f.1 f.2⟩

/-- A mention is accepted exactly if its own field reads as one. -/
theorem mem_accepted_mentions_iff {f : String × Json} (hf : f ∈ fields.toList) {m : Mention} :
    m ∈ accepted (mentionReads fields) ∧ m.name = f.1 ↔ Mention.ofRecord f.1 f.2 = .ok m := by
  rw [mem_accepted]
  exact mem_mentionReads_iff hf

/-- A mention is rejected exactly if its own field does not read as one. -/
theorem mem_rejected_mentions_iff {f : String × Json} (hf : f ∈ fields.toList)
    {e : Mention.Malformed} :
    e ∈ rejected (mentionReads fields) ∧ e.name = f.1 ↔ Mention.ofRecord f.1 f.2 = .error e := by
  rw [mem_rejected]
  exact mem_mentionReads_iff hf

/-- Each field of an object of mentions is read on its own. -/
theorem readsMentions :
    ReadsMentions fields
      ⟨.ofPuts (accepted (mentionReads fields)), rejected (mentionReads fields)⟩ := by
  have htable := IndexedTable.toList_ofPuts (nodup_accepted_mentions fields)
  have hget : ∀ f ∈ fields.toList, ∀ m,
      (IndexedTable.ofPuts (accepted (mentionReads fields)) : MentionTable).get? f.1 = some m ↔
        Mention.ofRecord f.1 f.2 = .ok m := by
    intro f hf m
    rw [IndexedTable.get?_eq_some_iff, htable]
    exact mem_accepted_mentions_iff hf
  refine ⟨?_, forall₂_rejected _, ?_, hget, fun f hf e => mem_rejected_mentions_iff hf⟩
  · dsimp only
    rw [htable]
    exact forall₂_accepted _
  · intro f hf
    cases hread : Mention.ofRecord f.1 f.2 with
    | ok m =>
        refine .inl ⟨?_, ?_⟩
        · obtain ⟨hm, hname⟩ := (IndexedTable.get?_eq_some_iff _ _ _).mp ((hget f hf m).mpr hread)
          exact IndexedTable.contains_iff.mpr ⟨m, hm, hname⟩
        · rintro ⟨e, he, hname⟩
          have herror := (mem_rejected_mentions_iff hf).mp ⟨he, hname⟩
          exact nomatch hread.symm.trans herror
    | error e =>
        refine .inr ⟨⟨e, (mem_rejected_mentions_iff hf).mpr hread⟩, ?_⟩
        intro hheld
        obtain ⟨m, hm, hname⟩ := IndexedTable.contains_iff.mp hheld
        have hok := (hget f hf m).mp ((IndexedTable.get?_eq_some_iff _ _ _).mpr ⟨hm, hname⟩)
        exact nomatch hread.symm.trans hok

end Mentions

section Trials

variable {records : List (Option String × Json)}

/-- A trial is the first of its identifier that was read. -/
theorem get?_trials_eq_some_iff {id : String} {t : Trial} :
    (IndexedTable.ofAdds (accepted (records.map fun r => Trial.ofRecord r.1 r.2)) :
        TrialTable).get? id = some t ↔ t.id = id ∧ FirstRead records t := by
  rw [IndexedTable.get?_ofAdds, find?_accepted_eq_some_iff, beq_iff_eq]
  apply and_congr_right
  rintro rfl
  simp only [beq_eq_false_iff_ne, FirstRead]

/-- Each row of a table of trials is read on its own. -/
theorem readsTrials :
    ReadsTrials records
      ⟨.ofAdds (accepted (records.map fun r => Trial.ofRecord r.1 r.2)),
        rejected (records.map fun r => Trial.ofRecord r.1 r.2)⟩ := by
  refine ⟨forall₂_rejected _, ?_, ?_, ?_⟩
  · rw [IndexedTable.keys_ofAdds, accepted_map]
  · intro t
    rw [← (IndexedTable.get?_eq_some_iff _ t.id t).trans (and_iff_left rfl),
      get?_trials_eq_some_iff]
    exact and_iff_right rfl
  · intro r hr t hread
    have ht : t ∈ accepted (records.map fun r => Trial.ofRecord r.1 r.2) :=
      mem_accepted.mpr (List.mem_map.mpr ⟨r, hr, hread⟩)
    have hid : t.id ∈ (IndexedTable.ofAdds (accepted
        (records.map fun r => Trial.ofRecord r.1 r.2)) : TrialTable).toList.map (·.id) := by
      rw [IndexedTable.keys_ofAdds, List.mem_eraseDups]
      exact List.mem_map_of_mem ht
    exact IndexedTable.contains_iff.mpr (List.mem_map.mp hid)

end Trials

/-- No row of a table is lost, and none that cannot be read keeps another from being read. -/
theorem rows_read_apart :
    (∀ fields : Fields, ∃ rows, readMentions (obj fields.toList) = .ok rows ∧
        ReadsMentions fields rows) ∧
      (∀ items, ∃ rows, readTrials (arr items) = .ok rows ∧
        ReadsTrials (items.map fun row => (none, row)) rows) ∧
      ∀ fields, ∃ rows, readTrials (obj fields) = .ok rows ∧
        ReadsTrials (fields.map fun f => (some f.1, f.2)) rows :=
  ⟨fun _ => ⟨_, rfl, readsMentions⟩, fun _ => ⟨_, readTrials_of_trialRows rfl, readsTrials⟩,
    fun _ => ⟨_, readTrials_of_trialRows rfl, readsTrials⟩⟩

/-- A row that cannot be read before the first that can, and one more after it. -/
example :
    (readTrials (arr [obj [("trial_id", "T1"), ("date", true)],
        obj [("trial_id", "T1"), ("date", "1590")],
        obj [("trial_id", "T1"), ("date", "1604")]])).map
      (fun rows => (rows.table.toList, rows.malformed.map (·.id))) =
      .ok ([.of "T1" (some "1590") none], ["T1"]) := rfl

end Prosopography
