import Prosopography.Json.Shape
import Prosopography.Text.Blank
import Prosopography.Text.Lowercase

/-!
# Labels of a mention

The standing, role and gender that the records give a person. Labels are read
without regard to ASCII case or to blanks around them.
-/

namespace Prosopography

/-- How a person is classed; the later of two standings outranks the other. -/
inductive Standing where
  | person
  | witness
  | authority
  | accused
deriving Repr, DecidableEq

namespace Standing

/-- All standings, the lowest first. -/
def all : List Standing := [person, witness, authority, accused]

/-- The place of a standing in the order of precedence. -/
def rank : Standing → Nat
  | person => 0
  | witness => 1
  | authority => 2
  | accused => 3

/-- The word for a standing. -/
def label : Standing → String
  | person => "person"
  | witness => "witness"
  | authority => "authority"
  | accused => "accused"

/-- Why a text is no standing. -/
inductive LabelError where
  | blank
  | unknown (label : String)
deriving Repr, DecidableEq

/-- The words for a text that is no standing. -/
def LabelError.message : LabelError → String
  | blank => "entity type cannot be empty"
  | unknown label =>
    "unknown entity type: " ++ label ++ ". Use one of person, witness, authority, accused"

/-- The standing that a text stands for. -/
def ofLabel (s : String) : Except LabelError Standing :=
  let s := Text.trimmed s
  if s.isEmpty then .error .blank
  else match all.find? fun t => Text.sameLabel s t.label with
    | some t => .ok t
    | none => .error (.unknown s)

/-- A standing by its word. -/
def shape : Json.Shape Standing := fun v => do
  match ofLabel (← Json.Shape.string v) with
  | .ok t => return t
  | .error e => .error (.wrongLabel e.message)

/-- No two standings have the same rank. -/
theorem rank_injective {s t : Standing} (h : s.rank = t.rank) : s = t := by
  cases s <;> cases t <;> simp_all [rank]

end Standing

/-- What a person did in one trial. -/
inductive Role where
  | accused
  | witness
  | authority
  | unknown
  | other (label : String)
deriving Repr, DecidableEq

namespace Role

/-- The word for a role. -/
def label : Role → String
  | accused => "accused"
  | witness => "witness"
  | authority => "authority"
  | unknown => "unknown"
  | other label => label

/-- Labels that name no known role are kept. -/
def ofLabel (s : String) : Role :=
  let s := Text.trimmed s
  if Text.sameLabel s "accused" then accused
  else if Text.sameLabel s "witness" then witness
  else if Text.sameLabel s "authority" then authority
  else if s.isEmpty || Text.sameLabel s "unknown" then unknown
  else other s

/-- A role by its word, which may be any. -/
def shape : Json.Shape Role := fun v => (Json.Shape.string v).map ofLabel

end Role

/-- The gender that is recorded of a person. -/
inductive Gender where
  | male
  | female
  | unknown
deriving Repr, DecidableEq

namespace Gender

/-- The word for a gender. -/
def label : Gender → String
  | male => "male"
  | female => "female"
  | unknown => "unknown"

/-- Whether a gender says anything. -/
def isKnown (g : Gender) : Bool := g != unknown

/-- The gender that a text stands for; what stands for none is unknown. -/
def ofLabel (s : String) : Gender :=
  let s := Text.trimmed s
  if Text.sameLabel s "male" || Text.sameLabel s "m" then male
  else if Text.sameLabel s "female" || Text.sameLabel s "f" then female
  else unknown

/-- A gender by its word. -/
def shape : Json.Shape Gender := fun v => (Json.Shape.string v).map ofLabel

end Gender

end Prosopography
