import Prosopography.Proofs.Csv.Reading
import Prosopography.Proofs.Resolution.Transitions
import Prosopography.Proofs.Store.Rendering
import Prosopography.Proofs.Store.Tables
import Std.Data.String.ToInt

/-!
# The table of transitions as text

The comma-separated text of the transitions holds what their JSON text holds: it reads back
as the header and one row for each transition, and the transition can be told from its row.
The last cell is empty only where there is no outcome, since outcomes of trials that were
read are never blank.
-/

namespace Prosopography

open Json

/-- The text of a field that holds a text or a whole number; null and absence leave no text. -/
def Json.cellOf (v : Json) (k : String) : String :=
  match v.field? k with
  | some (str s) => s
  | some (int n) => toString n
  | _ => ""

namespace Transition

/-- The cells of a transition are the fields of its record in the order of the header. -/
theorem row_eq_map_cellOf (t : Transition) : t.row = header.map t.toJson.cellOf := by
  have hcount : toString t.witnessAppearances = toString (t.witnessAppearances : Int) := rfl
  cases houtcome : t.outcome <;>
    simp [row, header, toJson, cellOf, field?, ofOption, ofNat, Artifact.optionCell, houtcome,
      hcount]

/-- The transition that a row stands for. -/
def ofRow? : List String → Option Transition
  | [id, key, witnessTrial, witnessYear, accusedTrial, accusedYear, yearsBetween, count, outcome] =>
    do
      let witnessYear ← witnessYear.toInt?
      let accusedYear ← accusedYear.toInt?
      let yearsBetween ← yearsBetween.toInt?
      let witnessAppearances ← count.toNat?
      return {
        id := ⟨id⟩
        key, witnessTrial, witnessYear, accusedTrial, accusedYear, yearsBetween
        witnessAppearances
        outcome := if outcome = "" then none else some outcome }
  | _ => none

/-- A transition is read back from its row, unless its outcome is the empty text. -/
theorem ofRow?_row {t : Transition} (h : t.outcome ≠ some "") : ofRow? t.row = some t := by
  have hint (n : Int) : (toString n).toInt? = some n := Int.toInt?_repr n
  have hnat : (toString t.witnessAppearances).toNat? = some t.witnessAppearances :=
    Nat.toNat?_repr t.witnessAppearances
  have houtcome : (if Artifact.optionCell t.outcome = "" then none
      else some (Artifact.optionCell t.outcome)) = t.outcome := by
    cases hcell : t.outcome with
    | none => rfl
    | some o => exact if_neg fun ho : o = "" => h (ho ▸ hcell)
  rw [row, ofRow?, hint, hint, hint, hnat, houtcome]
  rfl

end Transition

namespace Resolution

variable {settings : Settings} {mentions : MentionTable} {trials : TrialTable}

/-- The outcome of a transition is that of a trial. -/
theorem exists_trial_of_mem_transitions {t : Transition} {o : String}
    (ht : t ∈ (run settings mentions trials).transitions) (ho : t.outcome = some o) :
    ∃ trial ∈ trials.toList, trial.outcome = some o := by
  obtain ⟨p, hp, ht⟩ := List.mem_filterMap.mp ht
  obtain ⟨c, -, id, rfl⟩ := exists_cluster_of_mem_persons hp
  rw [(Transition.reports_of_ofPerson ht).outcome] at ho
  obtain ⟨-, ho⟩ := Option.ite_none_right_eq_some.mp ho
  obtain ⟨trial, htrial, ho⟩ := List.exists_of_findSome?_eq_some ho
  exact ⟨trial, List.mem_of_mem_filter htrial, ho⟩

/-- The file with a name among the tables of a run, if they are rendered. -/
def artifact? (r : Resolution) (i : Inputs) (name : String) : Option Artifact :=
  (r.tables i).toOption.bind fun tables => tables.find? (·.name == name)

theorem artifact?_transitions_json (r : Resolution) (i : Inputs) :
    r.artifact? i "witness_to_accused_transitions.json" =
      some (.ofJson "witness_to_accused_transitions.json"
        (arr (r.transitions.map Transition.toJson))) := by
  rw [artifact?, tables_eq]
  rfl

theorem artifact?_transitions_csv (r : Resolution) (i : Inputs) :
    r.artifact? i "witness_to_accused_transitions.csv" =
      some (.ofRows "witness_to_accused_transitions.csv"
        (Transition.header :: r.transitions.map Transition.row)) := by
  rw [artifact?, tables_eq]
  rfl

/-- The transitions as text are the header and, for each record of their JSON text in order, the
cells of its fields, from which the transition is recovered. -/
theorem ofText?_transitions {w : Json} {i : Inputs} (htrials : readTrials w = .ok i.trials.rows)
    (s : Settings) {r : Resolution} (hr : r = run s i.mentions.rows.table i.trials.rows.table) :
    ∃ csv rows,
      r.artifact? i "witness_to_accused_transitions.json" =
        some (.ofJson "witness_to_accused_transitions.json"
          (arr (r.transitions.map Transition.toJson))) ∧
      r.artifact? i "witness_to_accused_transitions.csv" = some csv ∧
      Csv.ofText? csv.text = some (Transition.header :: rows) ∧
      rows = (r.transitions.map Transition.toJson).map (fun v => Transition.header.map v.cellOf) ∧
      rows.map Transition.ofRow? = r.transitions.map some := by
  refine ⟨_, r.transitions.map Transition.row, artifact?_transitions_json r i,
    artifact?_transitions_csv r i, ?_, ?_, ?_⟩
  · apply Csv.ofText?_text
    rw [List.forall_mem_cons, List.forall_mem_map]
    exact ⟨List.cons_ne_nil _ _, fun _ _ => List.cons_ne_nil _ _⟩
  · rw [List.map_map]
    exact List.map_congr_left fun t _ => t.row_eq_map_cellOf
  · rw [List.map_map]
    apply List.map_congr_left
    intro t ht
    apply Transition.ofRow?_row
    intro hblank
    obtain ⟨trial, htrial, houtcome⟩ := exists_trial_of_mem_transitions (hr ▸ ht) hblank
    exact (settled_of_mem_trials htrials htrial).outcome_ne houtcome

/-- A trial whose identifier and outcome hold commas, quotes and the end of a line. -/
def quotedTrials : Json := arr [
  obj [("trial_id", "T1"), ("date", "1590")],
  obj [("trial_id", "T2, \"Nancy\""), ("date", "1595"), ("outcome", " hanged,\nthen burnt ")]]

/-- Inputs with a trial whose name holds both a comma and quotes. -/
def quotedInputs : Inputs where
  mentions := {
    rows := {
      table := .ofPuts [((Mention.of "Jean Petit" .accused).withTrial "T1" .witness).withTrial
        "T2, \"Nancy\"" .accused]
      malformed := [] }
    source := ⟨.ofText "entities.json", ""⟩ }
  trials := {
    rows := {
      table := .ofAdds [.of "T1" (some "1590") none,
        .of "T2, \"Nancy\"" (some "1595") (some " hanged,\nthen burnt ")]
      malformed := [] }
    source := ⟨.ofText "trials.json", ""⟩ }

/-- The run over that trial. -/
def quotedRun : Resolution :=
  run .standard quotedInputs.mentions.rows.table quotedInputs.trials.rows.table

/-- A table with quotes, commas and line feeds in its cells is read back. -/
theorem ofText?_quotedInputs :
    readTrials quotedTrials = .ok quotedInputs.trials.rows ∧
      quotedRun.transitions.map (·.outcome) = [some "hanged,\nthen burnt"] ∧
      ∃ csv rows,
        quotedRun.artifact? quotedInputs "witness_to_accused_transitions.csv" = some csv ∧
        Csv.ofText? csv.text = some (Transition.header :: rows) ∧
        rows.map Transition.ofRow? = quotedRun.transitions.map some := by
  have htrials : readTrials quotedTrials = .ok quotedInputs.trials.rows := rfl
  obtain ⟨csv, rows, -, hcsv, htext, -, hrows⟩ :=
    ofText?_transitions htrials .standard (r := quotedRun) rfl
  exact ⟨htrials, by decide +kernel, csv, rows, hcsv, htext, hrows⟩

end Resolution

end Prosopography
