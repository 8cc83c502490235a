import Prosopography.Json.Shape

/-!
# Decisions

Each time two clusters are brought together, or a reference cannot be decided,
the decision is logged with both keys and the score it rests on.
-/

namespace Prosopography

/-- What was decided about two keys. -/
inductive Action where
  /-- Two clusters were merged for their similar names. -/
  | merge
  /-- A reference by surname was attached to a full name. -/
  | attach
  /-- A reference by surname fits several full names and was left alone. -/
  | ambiguous
deriving Repr, DecidableEq

namespace Action

def label : Action → String
  | merge => "fuzzy_merge"
  | attach => "surname_attach"
  | ambiguous => "surname_ambiguous"

def shape : Json.Shape Action :=
  Json.Shape.variant ([merge, attach, ambiguous].map fun a => (a.label, a))

end Action

structure Decision where
  action : Action
  /-- The key that survives. -/
  kept : String
  /-- The key that is absorbed, or left alone. -/
  other : String
  similarity : Float
deriving DecidableEq

def Decision.toJson (d : Decision) : Json :=
  .obj [("action", .str d.action.label), ("name1", .str d.kept), ("name2", .str d.other),
    ("similarity", .float d.similarity)]

/-- Decisions in the order in which they were taken. -/
abbrev Log := List Decision

namespace Log

def count (log : Log) (a : Action) : Nat := log.countP (·.action == a)

def toJson (log : Log) : Json := .arr (log.map Decision.toJson)

end Log

end Prosopography
