import Prosopography.Trial.Basic

/-!
# Trials as records

A row of the trial table is a JSON record. Its identifier is the key it is given
under or, in a list of rows, a field of its own.
-/

namespace Prosopography.Trial

open Json

/-- The fields of a row read so far. -/
structure Draft where
  id : Option (Option String)
  date : Option (Option Json)
  outcome : Option (Option String)

/-- A row as read, before its identifier and date are settled. -/
structure Row where
  id : Option String
  date : Option Json
  outcome : Option String

/-- The record of a trial, in which no field is required and `trial_date` is a date too. -/
def rowKind : Shape.RecordKind Draft Row where
  title := "TrialRecord"
  fields := [
    Shape.defaulted "trial_id" (Shape.optional Shape.string) fun d a => { d with id := a },
    { Shape.defaulted "date" (Shape.optional Shape.any) fun d a => { d with date := a } with
      aliases := ["trial_date"] },
    Shape.defaulted "outcome" (Shape.optional Shape.string) fun d a => { d with outcome := a }]
  strict := false
  start := ⟨none, none, none⟩
  build := fun d => .ok ⟨d.id.getD none, d.date.getD none, d.outcome.getD none⟩

/-- Why a row is no trial. -/
inductive RowError where
  | shape (e : ShapeError)
  | unsupportedDate (date : Json)

/-- What is wrong with a row. -/
def RowError.message : RowError → String
  | shape e => e.message
  | unsupportedDate date => "unsupported date value: " ++ date.compact

/-- A row that could not be read, under its identifier as far as it is known. -/
structure Malformed where
  id : String
  reason : RowError

/-- What is wrong with a row, behind the name of its trial. -/
def Malformed.message (e : Malformed) : String :=
  "Malformed trial '" ++ e.id ++ "': " ++ e.reason.message

/-- A rejected row as it is saved. -/
def Malformed.toJson (e : Malformed) : Json :=
  obj [("trial_id", str e.id), ("reason", str e.reason.message)]

/-- The identifier of a row: its key, or else its own, which must not be blank. -/
def Row.id? (row : Row) : Option String → Option String
  | some key => some key
  | none => row.id.filter fun id => !(Text.trimmed id).isEmpty

/-- The text of a date; a number stands for its digits. -/
def dateText : Option Json → Except RowError (Option String)
  | none | some null => .ok none
  | some (str s) => .ok (some s)
  | some (int n) => .ok (some (toString n))
  | some (float x) => .ok (some (floatText x))
  | some v => .error (.unsupportedDate v)

/-- Reads a row; `key` is the key it is given under, if any. -/
def ofRecord (key : Option String) (record : Json) : Except Malformed Trial := do
  let unnamed := key.getD "<unnamed>"
  let row ← (rowKind.shape record).mapError fun e => ⟨unnamed, .shape e⟩
  let id ← match row.id? key with
    | some id => pure id
    | none => .error ⟨unnamed, .shape (.missingField "trial_id")⟩
  let date ← (dateText row.date).mapError (⟨id, ·⟩)
  return Trial.of id date row.outcome

/-- A trial as it is saved. -/
def toJson (t : Trial) : Json :=
  obj [("trial_id", str t.id), ("date", ofOption str t.date), ("year", ofOption int t.year),
    ("outcome", ofOption str t.outcome)]

end Prosopography.Trial
