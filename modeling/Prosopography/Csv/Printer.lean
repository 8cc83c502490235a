/-!
# Tables as comma-separated text

A row is a line of cells between commas. A cell that holds a comma, a quote or the
end of a line is quoted, and quotes inside it are written twice. All rows of a table
have as many cells as the first one.
-/

namespace Prosopography.Csv

/-- Characters that end a cell or start a quoted one. -/
def isSpecial (c : Char) : Bool := c == ',' || c == '"' || c == '\r' || c == '\n'

/-- The characters between quotes. -/
def doubled : List Char → List Char
  | [] => []
  | c :: s => if c = '"' then '"' :: '"' :: doubled s else c :: doubled s

/-- A cell, between quotes if it needs them. -/
def cell (s : List Char) : List Char :=
  if s.any isSpecial then '"' :: (doubled s ++ ['"']) else s

/-- The cells of a row with commas between them. -/
def cells : List (List Char) → List Char
  | [] => []
  | [s] => cell s
  | s :: t :: rest => cell s ++ ',' :: cells (t :: rest)

/-- A row as a line. -/
def row (r : List (List Char)) : List Char := cells r ++ ['\n']

/-- The text of some rows, each on a line of its own. -/
def text (rows : List (List String)) : String :=
  String.ofList (rows.flatMap fun r => row (r.map String.toList))

/-- Why rows make no table. -/
inductive WriteError where
  /-- A row has another number of cells than the rows before it. -/
  | unequalLengths (expected found : Nat)
deriving Repr, DecidableEq

/-- The message about rows that make no table. -/
def WriteError.message : WriteError → String
  | unequalLengths expected found =>
    "CSV error: found record with " ++ toString found ++ " fields, but the previous record has " ++
      toString expected ++ " fields"

/-- The text of a table, unless one of its rows differs in length from the first. -/
def render (rows : List (List String)) : Except WriteError String :=
  let expected := (rows.head?.getD []).length
  match rows.find? (·.length != expected) with
  | some r => .error (.unequalLengths expected r.length)
  | none => .ok (text rows)

end Prosopography.Csv
