import Prosopography.Name.Clause
import Prosopography.Text.Lowercase

/-!
# Matching keys

The key of a recorded name is what is left of it in lowercase once every clause
is struck and its spacing is squeezed. Striking one clause can uncover another,
so passes are repeated until a pass takes nothing away. What is struck from a
text leaves the other characters as they are, so lowercase comes once.
-/

namespace Prosopography.Name

open Text

/-- Blanks and the marks that separate clauses. -/
def isSeparator (c : Char) : Bool := isBlank c || c == ',' || c == ';'

/-- One pass over a text in lowercase. -/
def pass (s : List Char) : List Char :=
  trimBy isSeparator (squeeze (Clause.inOrder.foldl (fun s c => c.strike s) s))

/-- Repeats the pass as long as it makes the text shorter. -/
def settle (s : List Char) : List Char :=
  let t := pass s
  if t.length < s.length then settle t else s
termination_by s.length

/-- What is left of a text once no pass takes anything away. -/
def keyOf (s : List Char) : List Char := settle (pass (lowercase s))

/-- The key under which a recorded name is matched; it is empty for a name without any
text of its own. -/
def key (name : String) : String := String.ofList (keyOf name.toList)

/-- The first word of a key, empty if it has none. -/
def givenName (key : List Char) : List Char := (words key).head?.getD []

/-- The last word of a key, empty if it has none. -/
def familyName (key : List Char) : List Char := (words key).getLast?.getD []

/-- The surname in a key of the form `la X` or `le X`. -/
def surnameReference? : List Char → Option (List Char)
  | 'l' :: v :: s =>
    let name := s.dropWhile isBlank
    if (v = 'a' ∨ v = 'e') ∧ name.length < s.length ∧ name ≠ [] ∧ name.all (!isBlank ·) then
      some name
    else none
  | _ => none

end Prosopography.Name
