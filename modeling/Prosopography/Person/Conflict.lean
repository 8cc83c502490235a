import Prosopography.Collection.SortedMap
import Prosopography.Json.Basic
import Prosopography.Mention.Label
import Prosopography.Trial.Basic

/-!
# Conflicts between mentions

The mentions of one person may disagree. The highest standing wins, genders are
put to the vote, the outcome is that of the first trial, and of attributes the
last affirmed value is kept.
-/

namespace Prosopography

/-- Null, false, zero and whatever is empty are not truthy. -/
def Json.isTruthy : Json → Bool
  | null => false
  | bool b => b
  | int n => n != 0
  | float x => x != 0.0
  | str s => !s.isEmpty
  | arr items => !items.isEmpty
  | obj fields => !fields.isEmpty

/-- The standing of highest rank. -/
def Standing.highest (standings : List Standing) : Standing :=
  standings.foldl (fun best t => if best.rank ≤ t.rank then t else best) .person

namespace Gender

/-- One more vote for a gender. -/
def castVote (tally : List (Gender × Nat)) (g : Gender) : List (Gender × Nat) :=
  match tally with
  | [] => [(g, 1)]
  | (h, n) :: rest => if h = g then (h, n + 1) :: rest else (h, n) :: castVote rest g

/-- Votes for the known genders, in the order in which they are first seen. -/
def tally (votes : List Gender) : List (Gender × Nat) :=
  (votes.filter (·.isKnown)).foldl castVote []

/-- The gender with most votes, the one seen first if there are several. -/
def majority (votes : List Gender) : Gender :=
  ((tally votes).foldl (fun best e => if best.2 < e.2 then e else best) (unknown, 0)).1

end Gender

/-- The first known outcome among some trials, in the order of the table. -/
def TrialTable.outcomeAmong (trials : TrialTable) (ids : List String) : Option String :=
  (trials.toList.filter fun t => ids.contains t.id).findSome? (·.outcome)

/-- Takes over the truthy values of another mention. -/
def mergeAttributes (merged incoming : SortedMap Json) : SortedMap Json :=
  incoming.toList.foldl (fun m (k, v) => if v.isTruthy then m.insert k v else m) merged

end Prosopography
