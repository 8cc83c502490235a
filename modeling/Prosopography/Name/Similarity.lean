import Prosopography.Collection.SortedSet
import Prosopography.Decimal.Nearest
import Prosopography.Text.Blank

/-!
# Similarity of names

Two texts are as similar as their longest common subsequence is long: the score
is 200 times its length over the sum of both lengths, so equal texts score 100.
Scores are exact rationals; `toFloat` rounds one to the nearest double.
-/

namespace Prosopography.Similarity

/-- The next row of lengths, from the row of the text without its last character `x`:
`diagonal` and `left` are the entries before the ones still to be filled. -/
def nextRow (x : Char) : Nat → Nat → List Char → List Nat → List Nat
  | diagonal, left, y :: b, up :: row =>
    let here := if x = y then diagonal + 1 else max up left
    here :: nextRow x up here b row
  | _, _, _, _ => []

/-- Lengths of the longest common subsequences of `a` and every non-empty start of `b`. -/
def lastRow (a b : List Char) : List Nat :=
  a.foldl (fun row x => nextRow x 0 0 b row) (List.replicate b.length 0)

/-- Length of the longest common subsequence. -/
def commonLength (a b : List Char) : Nat := (lastRow a b).getLast?.getD 0

/-- Similarity of two texts as they are. -/
def ratio (a b : List Char) : Rat :=
  if a.length + b.length = 0 then 100
  else mkRat (200 * commonLength a b) (a.length + b.length)

/-- The set of words of a text. -/
def wordSet (s : List Char) : SortedSet String := .ofList ((Text.words s).map String.ofList)

/-- Words as one text, with a space between any two. -/
def joined (words : List String) : List Char := (String.intercalate " " words).toList

/-- The greatest of some scores. -/
def greatest (first : Rat) (rest : List Rat) : Rat :=
  rest.foldl (fun best s => if best < s then s else best) first

/-- Similarity of two texts as sets of words: the common words are compared with the words
of each side, and both sides with each other. It is 0 if a side has no words, and 100
if the words of one side are all among those of the other. -/
def wordSetRatio (a b : List Char) : Rat :=
  let left := wordSet a
  let right := wordSet b
  if left.isEmpty || right.isEmpty then 0
  else
    let common := left.toList.filter right.contains
    let onlyLeft := left.toList.filter (!right.contains ·)
    let onlyRight := right.toList.filter (!left.contains ·)
    if !common.isEmpty && (onlyLeft.isEmpty || onlyRight.isEmpty) then 100
    else
      let shared := joined common
      let withLeft := joined (common ++ onlyLeft)
      let withRight := joined (common ++ onlyRight)
      let sides := ratio withLeft withRight
      if common.isEmpty then sides
      else greatest sides [ratio shared withLeft, ratio shared withRight]

/-- The double nearest to a score, which is never negative. -/
def toFloat (score : Rat) : Float := Decimal.nearestQuotient score.num.toNat score.den

end Prosopography.Similarity
