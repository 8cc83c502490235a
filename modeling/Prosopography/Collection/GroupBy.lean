/-!
# Grouping in first-seen order

The elements of a list are gathered by a label. Groups stand in the order in
which their labels are first seen, and each group keeps the order of the list.
-/

namespace Prosopography

/-- The labels of a list with their elements. -/
def groupBy {α β : Type} [BEq β] (label : α → β) : List α → List (β × List α)
  | [] => []
  | a :: rest =>
    (label a, a :: rest.filter (label · == label a)) ::
      groupBy label (rest.filter (label · != label a))
termination_by l => l.length
decreasing_by
  have := List.length_filter_le (fun x => label x != label a) rest
  simp
  omega

end Prosopography
