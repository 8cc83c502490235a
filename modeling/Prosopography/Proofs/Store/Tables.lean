import Prosopography.Proofs.Collection.IndexedTable
import Prosopography.Proofs.Trial.Record
import Prosopography.Store.Tables

/-!
# Rows of tables that were read

Every row of a table was read from a record of its own. Records that can be read and those that
cannot are told apart one by one, and each kind keeps its order.
-/

namespace Prosopography

open Json

section Sorting

variable {ε ε' α β : Type}

theorem toOption_eq_some_iff {x : Except ε α} {a : α} : x.toOption = some a ↔ x = .ok a := by
  cases x with
  | error e => simp [Except.toOption]
  | ok b => simp [Except.toOption]

theorem mem_accepted {rows : List (Except ε α)} {a : α} :
    a ∈ accepted rows ↔ .ok a ∈ rows := by
  rw [accepted, List.mem_filterMap]
  constructor
  · rintro ⟨x, hx, hxa⟩
    exact toOption_eq_some_iff.mp hxa ▸ hx
  · exact fun ha => ⟨.ok a, ha, rfl⟩

theorem mem_rejected {rows : List (Except ε α)} {e : ε} : e ∈ rejected rows ↔ .error e ∈ rows := by
  rw [rejected, List.mem_filterMap]
  constructor
  · rintro ⟨x, hx, hxe⟩
    cases x with
    | error d => exact Option.some.inj hxe ▸ hx
    | ok a => exact nomatch hxe
  · exact fun he => ⟨.error e, he, rfl⟩

/-- What is said of the rows that cannot be read does not change which rows are. -/
theorem accepted_map_mapError (f : ε → ε') (rows : List (Except ε α)) :
    accepted (rows.map (·.mapError f)) = accepted rows := by
  rw [accepted, accepted, List.filterMap_map]
  apply List.filterMap_congr
  intro row _
  cases row <;> rfl

theorem rejected_map_mapError (f : ε → ε') (rows : List (Except ε α)) :
    rejected (rows.map (·.mapError f)) = (rejected rows).map f := by
  rw [rejected, rejected, List.filterMap_map, List.map_filterMap]
  apply List.filterMap_congr
  intro row _
  cases row <;> rfl

variable {read : β → Except ε α}

/-- The rows that were read come from the records that can be read, in their order. -/
theorem forall₂_accepted (records : List β) :
    List.Forall₂ (fun a record => read record = .ok a) (accepted (records.map read))
      (records.filter fun record => (read record).isOk) := by
  induction records with
  | nil => exact .nil
  | cons record records ih =>
      cases hread : read record with
      | ok a =>
          simpa [accepted, hread, Except.isOk, Except.toBool, Except.toOption] using ih
      | error e =>
          simpa [accepted, hread, Except.isOk, Except.toBool, Except.toOption] using ih

theorem forall₂_rejected (records : List β) :
    List.Forall₂ (fun e record => read record = .error e) (rejected (records.map read))
      (records.filter fun record => !(read record).isOk) := by
  induction records with
  | nil => exact .nil
  | cons record records ih =>
      cases hread : read record with
      | ok a => simpa [rejected, hread, Except.isOk, Except.toBool] using ih
      | error e => simpa [rejected, hread, Except.isOk, Except.toBool] using ih

theorem accepted_map (records : List β) :
    accepted (records.map read) = records.filterMap fun r => (read r).toOption := by
  rw [accepted, List.filterMap_map]
  rfl

/-- The first row with a property is read from a record before which none that can be read has
it. -/
theorem find?_accepted_eq_some_iff {records : List β} {p : α → Bool} {a : α} :
    (accepted (records.map read)).find? p = some a ↔
      p a = true ∧ ∃ before r after, records = before ++ r :: after ∧ read r = .ok a ∧
        ∀ b ∈ before, ∀ a', read b = .ok a' → p a' = false := by
  have hlacks : ∀ b,
      (!((read b).toOption.any p)) = true ↔ ∀ a', read b = .ok a' → p a' = false := by
    intro b
    cases read b with
    | error e => simp [Except.toOption]
    | ok a' => simp [Except.toOption]
  rw [accepted_map, List.find?_filterMap, Option.bind_eq_some_iff]
  simp only [List.find?_eq_some_iff_append, hlacks, toOption_eq_some_iff]
  constructor
  · rintro ⟨r, ⟨hr, before, after, hsplit, hbefore⟩, hread⟩
    rw [hread] at hr
    exact ⟨by simpa [Except.toOption] using hr, before, r, after, hsplit, hread, hbefore⟩
  · rintro ⟨ha, before, r, after, hsplit, hread, hbefore⟩
    refine ⟨r, ⟨?_, before, after, hsplit, hbefore⟩, hread⟩
    rw [hread]
    exact ha

end Sorting

theorem readTrials_of_trialRows {v : Json} {records : List (Option String × Json)}
    (h : trialRows v = .ok records) :
    readTrials v =
      .ok ⟨.ofAdds (accepted (records.map fun r => Trial.ofRecord r.1 r.2)),
        rejected (records.map fun r => Trial.ofRecord r.1 r.2)⟩ := by
  rw [readTrials, h]
  rfl

/-- Every mention of a table was read from a record. -/
theorem exists_record_of_mem_mentions {v : Json} {rows : Rows MentionTable Mention.Malformed}
    (h : readMentions v = .ok rows) {m : Mention} (hm : m ∈ rows.table.toList) :
    ∃ name record, Mention.ofRecord name record = .ok m := by
  rw [readMentions.eq_def] at h
  split at h
  · obtain rfl := Except.ok.inj h
    obtain ⟨⟨name, record⟩, -, hread⟩ :=
      List.mem_map.mp (mem_accepted.mp (IndexedTable.mem_of_mem_ofPuts hm))
    exact ⟨name, record, hread⟩
  · exact nomatch h

/-- Every trial of a table is settled. -/
theorem settled_of_mem_trials {v : Json} {rows : Rows TrialTable Trial.Malformed}
    (h : readTrials v = .ok rows) {t : Trial} (ht : t ∈ rows.table.toList) : t.Settled := by
  obtain ⟨records, -, h⟩ := Shape.bind_eq_ok_iff.mp h
  obtain rfl := Except.ok.inj h
  obtain ⟨⟨key, record⟩, -, hread⟩ :=
    List.mem_map.mp (mem_accepted.mp (IndexedTable.mem_of_mem_ofAdds ht))
  exact Trial.settled_of_ofRecord hread

end Prosopography
