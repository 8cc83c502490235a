import Prosopography.Mention.Record
import Prosopography.Trial.Record

/-!
# Reading tables

A table of mentions is a JSON object keyed by name; a table of trials is an array
of rows or an object keyed by identifier. Rows that cannot be read are set aside
in order, and do not keep the others from being read.
-/

namespace Prosopography

open Json

/-- What was read and the rows that were set aside. -/
structure Rows (τ ε : Type) where
  table : τ
  malformed : List ε

/-- A value that is no table at all. -/
inductive LayoutError where
  | notMentions
  | notTrials
deriving Repr, DecidableEq

/-- What a table should have been. -/
def LayoutError.message : LayoutError → String
  | notMentions => "expected an object keyed by raw name"
  | notTrials => "expected an array of trials or an object keyed by trial id"

/-- The rows that were read. -/
def accepted {ε α : Type} (rows : List (Except ε α)) : List α := rows.filterMap (·.toOption)

/-- The rows that were not. -/
def rejected {ε α : Type} (rows : List (Except ε α)) : List ε :=
  rows.filterMap fun
    | .ok _ => none
    | .error e => some e

/-- Reads an object from names to mentions; of two rows of a name the last stays. -/
def readMentions : Json → Except LayoutError (Rows MentionTable Mention.Malformed)
  | obj fields =>
    let rows := fields.map fun (name, record) => Mention.ofRecord name record
    .ok ⟨.ofPuts (accepted rows), rejected rows⟩
  | _ => .error .notMentions

/-- Rows with the keys they are given under. -/
def trialRows : Json → Except LayoutError (List (Option String × Json))
  | arr rows => .ok (rows.map fun row => (none, row))
  | obj rows => .ok (rows.map fun (id, row) => (some id, row))
  | _ => .error .notTrials

/-- Reads a table of trials in either layout; of two rows of a trial the first stays. -/
def readTrials (v : Json) : Except LayoutError (Rows TrialTable Trial.Malformed) := do
  let rows := (← trialRows v).map fun (key, row) => Trial.ofRecord key row
  return ⟨.ofAdds (accepted rows), rejected rows⟩

end Prosopography
