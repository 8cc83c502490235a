import Prosopography.Pattern.Search

/-!
# Endings of a text

An ending matches when some match reaches the end of the text. All endings are
looked at together, from the end of the text to its start: the positions from
which a pattern reaches marked ones follow from the marks. That takes time in
proportion to the text, however its matches overlap.
-/

namespace Prosopography

/-- Marks at the positions of a text, from its last position backwards. Positions before the
end of the list are not marked. -/
abbrev Marks := List Bool

namespace Marks

/-- The marks one position further back, where a character of the class was passed. -/
def passedOne (p : Char → Bool) : List Char → Marks → Marks
  | x :: before, m :: k => (m && p x) :: passedOne p before k
  | _, _ => []

/-- The marks `w.length` positions further back, where `w`, given backwards, was passed. -/
def passed (w : List Char) : List Char → Marks → Marks
  | _, [] => []
  | before, m :: k => (m && w.isPrefixOf before) :: passed w before.tail k

/-- The positions from which a run of the class leads to a mark; `further` says whether it does
after at least one character. -/
def runs (p : Char → Bool) : Bool → List Char → Marks → Marks
  | false, _, [] => []
  | true, [], [] => [true]
  | true, x :: before, [] => true :: runs p (p x) before []
  | further, [], m :: _ => [further || m]
  | further, x :: before, m :: k =>
    (further || m) :: runs p ((further || m) && p x) before k

/-- The marks at edges of the class; `after` says whether the next character is in it. -/
def atEdges (p : Char → Bool) : Bool → List Char → Marks → Marks
  | _, _, [] => []
  | after, [], m :: _ => [m && after]
  | after, x :: before, m :: k => (m && p x != after) :: atEdges p (p x) before k

/-- The positions marked in either of two. -/
def union : Marks → Marks → Marks
  | [], k => k
  | k, [] => k
  | m :: k, n :: k' => (m || n) :: union k k'

/-- No marks at all if none is set. -/
def orNone (k : Marks) : Marks := if k.any id then k else []

/-- The last marked place at `i` or later, otherwise `found`. -/
def lastFrom (found : Option Nat) : Nat → Marks → Option Nat
  | _, [] => found
  | i, m :: k => lastFrom (if m then some i else found) (i + 1) k

end Marks

namespace Pattern

/-- The positions from which a match leads to a mark, in a text that is given backwards. -/
def reach : Pattern → List Char → Marks → Marks
  | empty, _, k => k
  | one p, before, k => false :: Marks.passedOne p before k
  | chars w, before, k =>
    Marks.orNone (List.replicate w.length false ++ Marks.passed w.reverse before k)
  | many p, before, k => Marks.runs p false before k
  | few p, before, k => Marks.runs p false before k
  | seq a b, before, k => a.reach before (b.reach before k)
  | alt a b, before, k => (a.reach before k).union (b.reach before k)
  | edge p, before, k => Marks.atEdges p false before k

/-- The number of characters in the longest ending that matches. -/
def longestEnding? (p : Pattern) (s : List Char) : Option Nat :=
  if p.mayMatch s then Marks.lastFrom none 0 (p.reach s.reverse [true]) else none

/-- Removes the longest ending that matches. -/
def removeAtEnd (p : Pattern) (s : List Char) : List Char :=
  match p.longestEnding? s with
  | some n => s.take (s.length - n)
  | none => s

end Pattern

end Prosopography
