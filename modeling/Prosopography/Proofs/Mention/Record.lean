import Prosopography.Mention.Record
import Prosopography.Proofs.Json.Shape
import Prosopography.Proofs.Mention.Label

/-!
# Mentions that are read back

The roles of a mention that was read are those of labels, so that its own record gives the
same mention again.
-/

namespace Prosopography.Mention

open Json

/-- A mention whose roles are read back from their labels. -/
def Settled (m : Mention) : Prop := ∀ e ∈ m.roles.toList, e.2.Settled

open Shape.RecordKind in
/-- What is read as a mention is settled. -/
theorem settled_of_ofRecord {name : String} {record : Json} {m : Mention}
    (h : ofRecord name record = .ok m) : m.Settled := by
  let P (d : Draft) : Prop := ∀ e ∈ (d.roles.getD .empty).toList, e.2.Settled
  have hroles : ∀ (d : Draft) v roles, P d → Shape.map Role.shape v = .ok roles →
      P { d with roles := some roles } := by
    intro d v roles _ hread e he
    obtain ⟨w, hw⟩ := Shape.exists_of_mem_map hread he
    exact Role.settled_of_shape hw
  -- The other fields leave the roles of a draft alone.
  have hkeeps : ∀ f ∈ (recordKind name).fields, Keeps P f := by
    simp only [recordKind, List.forall_mem_cons]
    exact ⟨keeps_required _ fun _ _ _ hd _ => hd, keeps_required _ fun _ _ _ hd _ => hd,
      keeps_defaulted _ fun _ _ _ hd _ => hd, keeps_defaulted _ hroles,
      keeps_defaulted _ fun _ _ _ hd _ => hd, keeps_defaulted _ fun _ _ _ hd _ => hd,
      fun _ h => absurd h List.not_mem_nil⟩
  obtain ⟨d, hd, hbuild⟩ := exists_draft (fun _ h => absurd h List.not_mem_nil) hkeeps
    (Shape.mapError_eq_ok_iff.mp h)
  obtain ⟨standing, -, hbuild⟩ := Shape.bind_eq_ok_iff.mp hbuild
  obtain ⟨trials, -, hbuild⟩ := Shape.bind_eq_ok_iff.mp hbuild
  obtain rfl := Except.ok.inj hbuild
  exact hd

/-- A mention has the name that its record was given for. -/
theorem name_of_ofRecord {name : String} {record : Json} {m : Mention}
    (h : ofRecord name record = .ok m) : m.name = name := by
  obtain ⟨d, -, hbuild⟩ := Shape.RecordKind.exists_draft (P := fun _ => True) trivial
    (fun _ _ _ _ _ _ _ => trivial) (Shape.mapError_eq_ok_iff.mp h)
  obtain ⟨standing, -, hbuild⟩ := Shape.bind_eq_ok_iff.mp hbuild
  obtain ⟨trials, -, hbuild⟩ := Shape.bind_eq_ok_iff.mp hbuild
  obtain rfl := Except.ok.inj hbuild
  rfl

theorem name_of_ofRecord_error {name : String} {record : Json} {e : Malformed}
    (h : ofRecord name record = .error e) : e.name = name := by
  rw [ofRecord] at h
  cases hshape : (recordKind name).shape record with
  | error reason =>
      rw [hshape] at h
      obtain rfl := Except.error.inj h
      rfl
  | ok m =>
      rw [hshape] at h
      exact nomatch h

/-- The record of a mention, under the mention's own name, is read as that mention. -/
theorem ofRecord_toJson {m : Mention} (h : m.Settled) : ofRecord m.name m.toJson = .ok m := by
  have hroles := Shape.map_obj Role.shape (fun r => str r.label) fun e he => (h e he).shape_label
  have hgender : Shape.optional Gender.shape (ofOption (fun g => str g.label) m.gender) =
      .ok m.gender :=
    Shape.optional_ofOption (fun _ => Json.noConfusion) fun g _ => g.shape_label
  rw [ofRecord, Shape.mapError_eq_ok_iff]
  simp [toJson, recordKind, Shape.RecordKind.shape, Shape.RecordKind.storeFields, Shape.defaulted,
    Shape.required, Shape.Field.answersTo, hroles, hgender]

end Prosopography.Mention
