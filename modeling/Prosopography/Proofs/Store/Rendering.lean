import Prosopography.Store.Artifact

/-!
# Rendering the artifacts of a run

The tables of a run can always be rendered, since their rows are as long as their headers.
The manifest holds the paths of both inputs, so that it can be rendered exactly where
these are texts.
-/

namespace Prosopography

/-- Rows that are all as long as the first make a table. -/
theorem Csv.render_of_even {rows : List (List String)}
    (h : ∀ r ∈ rows, r.length = (rows.head?.getD []).length) : render rows = .ok (text rows) := by
  have hnone : rows.find? (·.length != (rows.head?.getD []).length) = none := by
    rw [List.find?_eq_none]
    intro r hr
    simp [h r hr]
  simp only [render, hnone]

namespace Artifact

/-- Rows as long as their header render. -/
theorem renderRows_of_even {name : String} {header : List String} {rows : List (List String)}
    (h : ∀ r ∈ rows, r.length = header.length) :
    renderRows name (header :: rows) = .ok (ofRows name (header :: rows)) := by
  have heven : ∀ r ∈ header :: rows, r.length = header.length :=
    List.forall_mem_cons.mpr ⟨rfl, h⟩
  rw [renderRows, Csv.render_of_even heven]
  rfl

end Artifact

open Artifact

/-- A transition has a cell for each column. -/
theorem Transition.length_row (t : Transition) : t.row.length = header.length := rfl

/-- A super-witness has a cell for each column. -/
theorem SuperWitness.length_row (w : SuperWitness) : w.row.length = header.length := rfl

namespace Resolution

variable (r : Resolution) (i : Inputs) (s : Settings)

/-- The tables of a run are rendered whatever they hold. -/
theorem tables_eq : r.tables i = .ok [
    ofJson "canonical_entities.json" (.obj (r.persons.map fun p => (p.id.text, p.toJson))),
    ofJson "entity_mappings.json" r.attribution.toJson,
    ofJson "resolution_log.json" r.log.toJson,
    ofJson "witness_to_accused_transitions.json" (.arr (r.transitions.map Transition.toJson)),
    ofRows "witness_to_accused_transitions.csv"
      (Transition.header :: r.transitions.map Transition.row),
    ofRows "super_witnesses_resolved.csv"
      (SuperWitness.header :: r.superWitnesses.map SuperWitness.row),
    ofJson "super_witnesses_resolved.json" (.arr (r.superWitnesses.map SuperWitness.toJson)),
    ofJson "resolution_statistics.json" r.statistics.toJson,
    ofJson "manual_review.json" (i.reviewJson r.manualReview)] := by
  have htransitions : ∀ row ∈ r.transitions.map Transition.row,
      row.length = Transition.header.length :=
    List.forall_mem_map.mpr fun t _ => t.length_row
  have hwitnesses : ∀ row ∈ r.superWitnesses.map SuperWitness.row,
      row.length = SuperWitness.header.length :=
    List.forall_mem_map.mpr fun w _ => w.length_row
  rw [tables, renderRows_of_even htransitions, renderRows_of_even hwitnesses]
  rfl

example : (Path.mk [0x2F, 0xFF]).text? = none := by decide

end Resolution

end Prosopography
