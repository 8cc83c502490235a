import Prosopography.Mention.Label
import Prosopography.Proofs.Text.Spacing

/-!
# Labels that are read back

A standing or a gender is read back from its label, and so is every role that was itself
read from a label: a label that names no known role is kept without the blanks around it.
-/

namespace Prosopography

/-- A standing is read back from its label. -/
@[simp] theorem Standing.shape_label (t : Standing) : shape (.str t.label) = .ok t := by
  cases t <;> rfl

/-- A gender is read back from its label. -/
theorem Gender.ofLabel_label (g : Gender) : ofLabel g.label = g := by
  cases g <;> rfl

@[simp] theorem Gender.shape_label (g : Gender) : shape (.str g.label) = .ok g :=
  congrArg Except.ok g.ofLabel_label

namespace Role

/-- A role that its label stands for. -/
def Settled (r : Role) : Prop := ofLabel r.label = r

theorem settled_ofLabel (s : String) : (ofLabel s).Settled := by
  rw [ofLabel]
  split_ifs with haccused hwitness hauthority hunknown
  · exact rfl
  · exact rfl
  · exact rfl
  · exact rfl
  · -- A label of no known role is not another one for having been trimmed.
    simp only [Settled, label, ofLabel, Text.trimmed_trimmed]
    rw [if_neg haccused, if_neg hwitness, if_neg hauthority, if_neg hunknown]

/-- What is read as a role is settled. -/
theorem settled_of_shape {v : Json} {r : Role} (h : shape v = .ok r) : r.Settled := by
  cases v with
  | str s => exact Except.ok.inj h ▸ settled_ofLabel s
  | _ => exact nomatch h

/-- A settled role is read back from its label. -/
theorem Settled.shape_label {r : Role} (h : r.Settled) : shape (.str r.label) = .ok r :=
  congrArg Except.ok h

end Role

end Prosopography
