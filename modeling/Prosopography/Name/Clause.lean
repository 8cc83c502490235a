import Prosopography.Pattern.Ending
import Prosopography.Text.Blank
import Prosopography.Text.Digit
import Prosopography.Text.Letter
import Prosopography.Text.WordChar

/-!
# Clauses of a recorded name

A name in a court record carries clauses that do not belong to it: whose wife or
son the person is, where the person lives, age, trade, and the archive's own
references. Each clause has a pattern over lowercase text. The clauses are
struck in a fixed order: some wherever they occur, some only at the start of the
text, and those that take all that follows them only at its end.
-/

namespace Prosopography.Name

open Pattern Text

/-- What stands in a recorded name besides the name. -/
inductive Clause where
  /-- `du précédent`: of the person named before. -/
  | backReference
  /-- `femme de`, `veuve`, `fils du`, `son of`. -/
  | relation
  /-- `de Nancy`, `du Val`, `d'Épinal` and all that follows on the last line. -/
  | place
  /-- `of Metz` and all that follows on the last line. -/
  | placeOf
  /-- `âgée de 60 ans`, `aged 45` and all that follows on the last line. -/
  | age
  /-- A number at the end, with or without `ans`. -/
  | finalNumber
  /-- `laboureur` and all that follows on the last line. -/
  | occupation
  /-- `B 2145;` at the start. -/
  | archiveBox
  /-- `case 12,` at the start. -/
  | archiveCase
  /-- `witch 40,` wherever it stands. -/
  | archiveWitness
deriving Repr, DecidableEq

namespace Clause

/-- At least one blank. -/
def someBlanks : Pattern := some1 isBlank

/-- Blanks, if there are any. -/
def anyBlanks : Pattern := many isBlank

/-- A place where a word begins or ends. -/
def wordEdge : Pattern := edge isWordChar

/-- All that follows on the line. -/
def restOfLine : Pattern := many (· != '\n')

/-- A comma with or without blanks, or blanks alone. -/
def commaOrBlanks : Pattern := alt (text "," ++ anyBlanks) someBlanks

/-- The first word of a place name: letters and hyphens. -/
def placeWord : Pattern := some1 fun c => isLetter c || c == '-'

/-- At least one digit. -/
def someDigits : Pattern := some1 isDigit

/-- The mark that may close an archive reference, and the blanks after it. -/
def archiveMark : Pattern := optional (one fun c => c == ',' || c == ';') ++ anyBlanks

/-- How a clause is written. -/
def pattern : Clause → Pattern
  | backReference =>
    wordEdge ++ text "du" ++ someBlanks ++ text "pr" ++ one (fun c => c == 'e' || c == 'é') ++
      text "c" ++ one (fun c => c == 'e' || c == 'é') ++ text "dent" ++ wordEdge
  | relation =>
    wordEdge ++ alt
      (anyOf [text "femme", text "veuve", text "fils", text "fille"] ++ someBlanks ++
        optional (alt (alt (text "de") (text "du") ++ someBlanks) (text "d'" ++ anyBlanks)))
      (anyOf [text "wife", text "widow", text "son", text "daughter"] ++ someBlanks ++
        text "of" ++ someBlanks)
  | place =>
    commaOrBlanks ++ alt (alt (text "de") (text "du") ++ someBlanks) (text "d'") ++ anyBlanks ++
      placeWord ++ restOfLine
  | placeOf => commaOrBlanks ++ text "of" ++ someBlanks ++ placeWord ++ restOfLine
  | age =>
    optional (text ",") ++ anyBlanks ++ wordEdge ++
      alt (text "âg" ++ one (fun c => c == 'é' || c == 'e') ++ optional (text "e"))
        (text "age" ++ optional (text "d")) ++
      someBlanks ++ optional (text "de" ++ someBlanks) ++ someDigits ++ restOfLine
  | finalNumber =>
    optional (text ",") ++ anyBlanks ++ someDigits ++ anyBlanks ++ optional (text "ans") ++
      anyBlanks
  | occupation =>
    optional (text ",") ++ anyBlanks ++ wordEdge ++
      anyOf [text "laboureur", text "manoeuvrier", text "manouvrier"] ++ wordEdge ++ restOfLine
  | archiveBox =>
    text "b" ++ someBlanks ++ one isDigit ++ few (· != '\n') ++ text ";" ++ anyBlanks
  | archiveCase => text "case" ++ someBlanks ++ someDigits ++ archiveMark
  | archiveWitness => wordEdge ++ text "witch" ++ someBlanks ++ someDigits ++ archiveMark

/-- Where a clause is struck. -/
inductive Site where
  | anywhere
  | atStart
  | atEnd
deriving Repr, DecidableEq

/-- Where a clause is looked for. -/
def site : Clause → Site
  | backReference | relation | archiveWitness => .anywhere
  | archiveBox | archiveCase => .atStart
  | place | placeOf | age | finalNumber | occupation => .atEnd

/-- The text without a clause. -/
def strike (c : Clause) (s : List Char) : List Char :=
  match c.site with
  | .anywhere => c.pattern.removeAll s
  | .atStart => c.pattern.removeAtStart s
  | .atEnd => c.pattern.removeAtEnd s

/-- The order in which clauses are struck. -/
def inOrder : List Clause :=
  [backReference, relation, place, placeOf, age, finalNumber, occupation, archiveBox,
    archiveCase, archiveWitness]

theorem mem_inOrder (c : Clause) : c ∈ inOrder := by cases c <;> simp [inOrder]

end Clause

end Prosopography.Name
