import Prosopography.Text.CodePoints

/-!
# Blanks and words

Blanks are the characters of the White_Space property. A text is trimmed of
characters at both ends, cut into words at its blanks, and its runs of blanks
are squeezed to single spaces.
-/

namespace Prosopography.Text

/-- The white space of Unicode. -/
def blanks : CodePoints := [
  (0x9, 0xD), (0x20, 0x20), (0x85, 0x85), (0xA0, 0xA0), (0x1680, 0x1680), (0x2000, 0x200A),
  (0x2028, 0x2029), (0x202F, 0x202F), (0x205F, 0x205F), (0x3000, 0x3000)]

/-- Whether a character is white space. -/
def isBlank (c : Char) : Bool := blanks.contains c.toNat

/-- Drops the characters satisfying `p` from the end. -/
def trimEndBy (p : Char → Bool) (s : List Char) : List Char :=
  if s.getLast?.any p then (s.reverse.dropWhile p).reverse else s

/-- Drops the characters satisfying `p` from both ends. -/
def trimBy (p : Char → Bool) (s : List Char) : List Char := trimEndBy p (s.dropWhile p)

/-- A text without the blanks at its ends. -/
def trim (s : List Char) : List Char := trimBy isBlank s

/-- The pieces between blanks; neighbouring blanks have an empty piece between them. -/
def pieces : List Char → List (List Char)
  | [] => [[]]
  | c :: s =>
    if isBlank c then [] :: pieces s
    else match pieces s with
      | [] => [[c]]
      | w :: ws => (c :: w) :: ws

/-- The maximal runs of characters that are not blank. -/
def words (s : List Char) : List (List Char) := (pieces s).filter (!·.isEmpty)

/-- Every run of blanks becomes one space. -/
def squeeze : List Char → List Char
  | [] => []
  | c :: s =>
    if isBlank c then
      match s with
      | [] => [' ']
      | d :: _ => if isBlank d then squeeze s else ' ' :: squeeze s
    else c :: squeeze s

/-- The string without the blanks at its ends. -/
def trimmed (s : String) : String := String.ofList (trim s.toList)

end Prosopography.Text
