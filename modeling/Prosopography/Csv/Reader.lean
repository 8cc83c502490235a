import Prosopography.Csv.Printer

/-!
# Reading comma-separated text

A cell that starts with a quote runs to the next single quote and may hold any
character; two quotes in it stand for one. Every row ends with a line feed.
-/

namespace Prosopography.Csv

/-- The cell after its opening quote, and what follows the closing one. -/
def readQuoted : List Char → Option (List Char × List Char)
  | [] => none
  | '"' :: '"' :: s => (readQuoted s).map fun (cell, rest) => ('"' :: cell, rest)
  | '"' :: s => some ([], s)
  | c :: s => (readQuoted s).map fun (cell, rest) => (c :: cell, rest)

/-- A cell at the front of a text, and the text after it. -/
def readCell : List Char → Option (List Char × List Char)
  | '"' :: s => readQuoted s
  | s => some (s.takeWhile (!isSpecial ·), s.dropWhile (!isSpecial ·))

/-- The rest of the rows; `n` bounds the number of cells, and `done` holds the cells of the
current row, latest first. -/
def readRows : Nat → List (List Char) → List Char → Option (List (List (List Char)))
  | 0, _, _ => none
  | n + 1, done, s => do
    let (cell, s) ← readCell s
    match s with
    | ',' :: s => readRows n (cell :: done) s
    | ['\n'] => some [(cell :: done).reverse]
    | '\n' :: s => (readRows n [] s).map ((cell :: done).reverse :: ·)
    | _ => none

/-- The rows of a text. -/
def ofText? (text : String) : Option (List (List String)) :=
  match text.toList with
  | [] => some []
  | s => (readRows (s.length + 1) [] s).map fun rows => rows.map fun r => r.map String.ofList

end Prosopography.Csv
