import Prosopography.Proofs.Store.Tables

/-!
# The two layouts of trial tables

A trial may be given under its identifier or with the identifier as a field of its own. A row
without such a field means the same under its key as it does with the key put in, wherever the
field is put, so that both layouts give one table and refuse the same rows for the same reasons.
-/

namespace Prosopography

open Json

/-- A row with the key put in that the same row is given under in the other layout. -/
inductive CarriesKey : String × Json → Json → Prop
  | intro (id : String) (before after : List (String × Json)) (hid : Text.trimmed id ≠ "")
      (hfree : ∀ e ∈ before ++ after, e.1 ≠ "trial_id") :
      CarriesKey (id, obj (before ++ after)) (obj (before ++ ("trial_id", str id) :: after))

namespace Trial

/-- A draft with its identifier set. -/
def Draft.withId (id : String) (d : Draft) : Draft := { d with id := some (some id) }

/-- A row with its identifier set. -/
def Row.withId (id : String) (row : Row) : Row := { row with id := some id }

theorem rowKind_misses {k : String} (hk : k ≠ "trial_id") : rowKind.Misses "trial_id" k := by
  intro f hfind hname
  have hanswers := List.find?_some hfind
  have hf := List.mem_of_find?_eq_some hfind
  simp only [rowKind, List.mem_cons, List.not_mem_nil, or_false] at hf
  obtain rfl | rfl | rfl := hf
  · apply hk.symm
    simpa [Shape.Field.answersTo, Shape.defaulted, Shape.required] using hanswers
  · exact absurd hname (by decide)
  · exact absurd hname (by decide)

open Shape.RecordKind in
theorem commutes_withId (id : String) :
    ∀ f ∈ rowKind.fields, f.name ≠ "trial_id" → Commutes (Draft.withId id) f := by
  -- The other name of the date has no part in how it is stored.
  have hdate : Commutes (Draft.withId id) (Shape.defaulted "date" (Shape.optional Shape.any)
      fun (d : Draft) a => { d with date := a }) :=
    commutes_defaulted "date" fun _ _ => rfl
  simp only [rowKind, List.forall_mem_cons]
  exact ⟨fun h => absurd rfl h, fun _ => hdate,
    fun _ => commutes_defaulted "outcome" fun _ _ => rfl, fun _ h => absurd h List.not_mem_nil⟩

section Carried

variable {id : String} {before after : List (String × Json)}
  (hfree : ∀ e ∈ before ++ after, e.1 ≠ "trial_id")
include hfree

/-- An identifier that is put in is the only difference it makes. -/
theorem shape_insert_id :
    rowKind.shape (obj (before ++ ("trial_id", str id) :: after)) =
      (rowKind.shape (obj (before ++ after))).map (Row.withId id) := by
  have hstore : rowKind.storeFields rowKind.start [] (before ++ ("trial_id", str id) :: after) =
      (rowKind.storeFields rowKind.start [] (before ++ after)).map (Draft.withId id) :=
    Shape.RecordKind.storeFields_insert (commutes_withId id) rfl rfl (fun _ => rfl)
      (fun e he => rowKind_misses (hfree e he)) rowKind.start rfl
  rw [Shape.RecordKind.shape, Shape.RecordKind.shape, hstore]
  cases rowKind.storeFields rowKind.start [] (before ++ after) with
  | error e => rfl
  | ok d => rfl

/-- A row that carries its key is read as the row under that key, and refused for the same
reason. -/
theorem ofRecord_insert_id (hid : Text.trimmed id ≠ "") :
    (ofRecord none (obj (before ++ ("trial_id", str id) :: after))).mapError (·.reason) =
      (ofRecord (some id) (obj (before ++ after))).mapError (·.reason) := by
  cases hrow : rowKind.shape (obj (before ++ after)) with
  | error e =>
      rw [ofRecord, ofRecord, shape_insert_id hfree, hrow]
      rfl
  | ok row =>
      have hcarried : rowKind.shape (obj (before ++ ("trial_id", str id) :: after)) =
          .ok (row.withId id) := by
        rw [shape_insert_id hfree, hrow, Shape.map_ok]
      have hown : (row.withId id).id? none = some id := by
        simp [Row.id?, Row.withId, Option.filter, hid]
      rw [ofRecord_of_shape hrow rfl, ofRecord_of_shape hcarried hown]
      rfl

end Carried

end Trial

/-- A row reads the same with its identifier outside and inside. -/
theorem CarriesKey.ofRecord_eq {field : String × Json} {item : Json} (h : CarriesKey field item) :
    (Trial.ofRecord (some field.1) field.2).mapError (·.reason) =
      (Trial.ofRecord none item).mapError (·.reason) := by
  cases h with
  | intro id before after hid hfree => exact (Trial.ofRecord_insert_id hfree hid).symm

/-- The same trials in either layout give the same table, and the same rows of them are refused
for the same reasons. -/
theorem readTrials_layouts {fields : List (String × Json)} {items : List Json}
    (h : List.Forall₂ CarriesKey fields items) :
    ∃ keyed listed, readTrials (obj fields) = .ok keyed ∧ readTrials (arr items) = .ok listed ∧
      keyed.table = listed.table ∧
        keyed.malformed.map (·.reason) = listed.malformed.map (·.reason) := by
  let keyed := fields.map fun field => Trial.ofRecord (some field.1) field.2
  let listed := items.map (Trial.ofRecord none)
  have hreads : keyed.map (·.mapError (·.reason)) = listed.map (·.mapError (·.reason)) := by
    rw [← List.forall₂_eq_eq_eq, List.map_map, List.map_map, List.forall₂_map_left_iff,
      List.forall₂_map_right_iff]
    exact h.imp fun _ _ => CarriesKey.ofRecord_eq
  have hkeyed := readTrials_of_trialRows (v := obj fields) rfl
  have hlisted := readTrials_of_trialRows (v := arr items) rfl
  rw [List.map_map] at hkeyed hlisted
  refine ⟨_, _, hkeyed, hlisted, ?_, ?_⟩
  · calc
      IndexedTable.ofAdds (accepted keyed) =
          .ofAdds (accepted (keyed.map (·.mapError (·.reason)))) := by
        rw [accepted_map_mapError]
      _ = .ofAdds (accepted listed) := by
        rw [hreads, accepted_map_mapError]
  · calc
      (rejected keyed).map (·.reason) = rejected (keyed.map (·.mapError (·.reason))) :=
        (rejected_map_mapError _ _).symm
      _ = (rejected listed).map (·.reason) := by
        rw [hreads, rejected_map_mapError]

/-- A row whose date has its other name, one with a date of a wrong kind, one with two dates and
one with nothing in it. -/
def keyedRows : List (String × Json) := [
  ("T1", obj [("trial_date", int 1590), ("outcome", " banished ")]),
  ("T2", obj [("date", bool true), ("judge", "Remy")]),
  ("T3", obj [("date", "1598-06-14"), ("trial_date", null)]),
  ("T4", obj [])]

/-- Rows with an alias, a date of the wrong kind, two dates and no fields at all. -/
def listedRows : List Json := [
  obj [("trial_id", "T1"), ("trial_date", int 1590), ("outcome", " banished ")],
  obj [("date", bool true), ("trial_id", "T2"), ("judge", "Remy")],
  obj [("date", "1598-06-14"), ("trial_date", null), ("trial_id", "T3")],
  obj [("trial_id", "T4")]]

/-- Four rows of both layouts, two of them rejected. -/
theorem readTrials_layouts_fourRows :
    List.Forall₂ CarriesKey keyedRows listedRows ∧
      ∃ keyed listed, readTrials (obj keyedRows) = .ok keyed ∧
        readTrials (arr listedRows) = .ok listed ∧ keyed.table = listed.table ∧
        keyed.malformed.map (·.reason) = listed.malformed.map (·.reason) ∧
        listed.table.toList = [.of "T1" (some "1590") (some " banished "), .of "T4" none none] ∧
        listed.malformed.map (·.message) =
          ["Malformed trial 'T2': unsupported date value: true",
            "Malformed trial '<unnamed>': duplicate field `date`"] := by
  have hrows : List.Forall₂ CarriesKey keyedRows listedRows :=
    .cons (.intro "T1" [] _ (by decide) (by decide)) <|
      .cons (.intro "T2" [("date", bool true)] _ (by decide) (by decide)) <|
      .cons (.intro "T3" [_, _] [] (by decide) (by decide)) <|
      .cons (.intro "T4" [] [] (by decide) (by decide)) .nil
  obtain ⟨keyed, listed, hkeyed, hlisted, htable, hreasons⟩ := readTrials_layouts hrows
  refine ⟨hrows, keyed, listed, hkeyed, hlisted, htable, hreasons, ?_⟩
  obtain rfl := Except.ok.inj hlisted
  exact ⟨rfl, rfl⟩

end Prosopography
