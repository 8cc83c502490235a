import Prosopography.Proofs.Json.Shape
import Prosopography.Proofs.Text.Spacing
import Prosopography.Proofs.Trial.Date
import Prosopography.Trial.Record

/-!
# Trials that are read back

A trial is always made of an identifier, a date and an outcome. Its outcome is trimmed and
not empty, so that its record gives the same trial again.
-/

namespace Prosopography.Trial

open Json

/-- A trial as all trials are made. -/
def Settled (t : Trial) : Prop := ∃ id date outcome, t = of id date outcome

/-- What is read as a trial is settled. -/
theorem settled_of_ofRecord {key : Option String} {record : Json} {t : Trial}
    (h : ofRecord key record = .ok t) : t.Settled := by
  obtain ⟨row, -, h⟩ := Shape.bind_eq_ok_iff.mp h
  dsimp only at h
  split at h
  · obtain ⟨id, -, h⟩ := Shape.bind_eq_ok_iff.mp h
    obtain ⟨date, -, h⟩ := Shape.bind_eq_ok_iff.mp h
    exact ⟨id, date, row.outcome, (Except.ok.inj h).symm⟩
  · exact nomatch h

namespace Settled

variable {t : Trial}

theorem outcome_eq (h : t.Settled) :
    (t.outcome.map Text.trimmed).filter (!·.isEmpty) = t.outcome := by
  obtain ⟨id, date, outcome, rfl⟩ := h
  cases outcome with
  | none => rfl
  | some s =>
      by_cases hs : (Text.trimmed s).isEmpty
      · simp [of, Option.filter, hs]
      · simp [of, Option.filter, hs]

theorem outcome_ne (h : t.Settled) : t.outcome ≠ some "" := by
  intro hblank
  have houtcome := h.outcome_eq
  rw [hblank] at houtcome
  exact absurd houtcome (by decide)

/-- A settled trial is what its own fields give. -/
theorem of_eq (h : t.Settled) : of t.id t.date t.outcome = t := by
  have houtcome := h.outcome_eq
  obtain ⟨id, date, outcome, rfl⟩ := h
  rw [of, houtcome]
  rfl

theorem isYear (h : t.Settled) {year : Int} (hyear : t.year = some year) : IsYear year := by
  obtain ⟨id, date, outcome, rfl⟩ := h
  obtain ⟨date, -, hdate⟩ := Option.bind_eq_some_iff.mp hyear
  exact isYear_of_yearOf hdate

end Settled

/-- What is left to settle of a row that has the right shape and an identifier is its date. -/
theorem ofRecord_of_shape {key : Option String} {record : Json} {row : Row} {id : String}
    (hrow : rowKind.shape record = .ok row) (hid : row.id? key = some id) :
    ofRecord key record =
      ((dateText row.date).mapError (⟨id, ·⟩)).map fun date => of id date row.outcome := by
  rw [ofRecord, hrow]
  simp only [Except.mapError, Shape.ok_bind, hid]
  cases dateText row.date <;> rfl

/-- A trial is read back from its record. -/
theorem shape_toJson (t : Trial) :
    rowKind.shape t.toJson = .ok ⟨some t.id, t.date.map str, t.outcome⟩ := by
  have hid : Shape.optional Shape.string (str t.id) = .ok (some t.id) := rfl
  have hdate : Shape.optional Shape.any (ofOption str t.date) = .ok (t.date.map str) := by
    cases t.date <;> rfl
  simp [toJson, rowKind, Shape.RecordKind.shape, Shape.RecordKind.storeFields, Shape.defaulted,
    Shape.required, Shape.Field.answersTo, hid, hdate]

/-- The record of a trial, under the trial's own identifier, is read as that trial. -/
theorem ofRecord_toJson {t : Trial} (h : t.Settled) : ofRecord (some t.id) t.toJson = .ok t := by
  have hdate : dateText (t.date.map str) = .ok t.date := by
    cases t.date <;> rfl
  rw [ofRecord, shape_toJson]
  simp [Row.id?, Except.mapError, hdate, h.of_eq]

end Prosopography.Trial
