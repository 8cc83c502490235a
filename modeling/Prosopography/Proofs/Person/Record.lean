import Prosopography.Person.Record
import Prosopography.Proofs.Collection.SortedSet
import Prosopography.Proofs.Json.Shape
import Prosopography.Proofs.Mention.Label
import Prosopography.Proofs.Trial.Date

/-!
# Persons that are read back

The record of a person gives the same person again if the person's roles are read back from
their labels and its years are years of the calendar.
-/

namespace Prosopography

open Json

theorem Json.Shape.year_int {year : Int} (h : Trial.IsYear year) :
    Shape.year (int year) = .ok year := by
  obtain ⟨hfirst, hlast⟩ := h
  simp only [Trial.firstYear, Trial.lastYear] at hfirst hlast
  exact if_pos ⟨by omega, by omega⟩

namespace Appearance

/-- An appearance whose role and year are read back. -/
structure Settled (a : Appearance) : Prop where
  role : a.role.Settled
  year : ∀ year, a.year = some year → Trial.IsYear year

/-- A settled appearance is read back from its record. -/
theorem shape_toJson {a : Appearance} (h : a.Settled) : recordKind.shape a.toJson = .ok a := by
  have hyear : Shape.optional Shape.year (ofOption int a.year) = .ok a.year :=
    Shape.optional_ofOption (fun _ => Json.noConfusion) fun year hy =>
      Shape.year_int (h.year year hy)
  simp [toJson, recordKind, Shape.RecordKind.shape, Shape.RecordKind.storeFields, Shape.required,
    Shape.Field.answersTo, h.role.shape_label, hyear]

end Appearance

namespace Person

/-- A person whose appearances and roles are read back. -/
structure Settled (p : Person) : Prop where
  appearances : ∀ a ∈ p.appearances, a.Settled
  roles : ∀ e ∈ p.roles.toList, e.2.Settled

/-- A settled person is read back from their record. -/
theorem shape_toJson {p : Person} (h : p.Settled) : Person.shape p.toJson = .ok p := by
  have happearances : Shape.list Appearance.recordKind.shape
      (arr (p.appearances.map Appearance.toJson)) = .ok p.appearances :=
    Shape.list_arr fun a ha => Appearance.shape_toJson (h.appearances a ha)
  have hroles :=
    Shape.map_obj Role.shape (fun r => str r.label) fun e he => (h.roles e he).shape_label
  simp [toJson, Person.shape, recordKind, Shape.RecordKind.shape, Shape.RecordKind.storeFields,
    Shape.defaulted, Shape.required, Shape.Field.answersTo, happearances, hroles,
    SortedSet.ofList_toList]

end Person

end Prosopography
