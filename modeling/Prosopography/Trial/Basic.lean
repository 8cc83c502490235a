import Prosopography.Collection.IndexedTable
import Prosopography.Json.Shape
import Prosopography.Trial.Date

/-!
# Trials

A trial has an identifier, a date as written, the year read off it and an
outcome. In the table of trials the first row of an identifier is kept.
-/

namespace Prosopography

/-- One trial, as the table of trials has it. -/
structure Trial where
  id : String
  date : Option String
  year : Option Int
  outcome : Option String
deriving Repr, DecidableEq

namespace Trial

/-- A trial with the year of its date; a blank outcome counts as none. -/
def of (id : String) (date outcome : Option String) : Trial where
  id
  date
  year := date.bind yearOf
  outcome := (outcome.map Text.trimmed).filter (!·.isEmpty)

end Trial

/-- The trials in the order of their rows, one for each identifier. -/
abbrev TrialTable := IndexedTable Trial.id

namespace TrialTable

/-- Inserts a trial and tells whether its identifier is new; if not, the table stays. -/
def insert (t : TrialTable) (trial : Trial) : TrialTable × Bool :=
  (t.add trial, !t.contains trial.id)

/-- The year of a trial that is in the table and dated. -/
def yearOf (t : TrialTable) (id : String) : Option Int := (t.get? id).bind (·.year)

end TrialTable

end Prosopography
