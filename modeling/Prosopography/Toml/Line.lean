import Prosopography.Toml.Basic

/-!
# Lines of TOML text

Lines end with a line feed, before which a carriage return may stand. A comment
runs from a number sign to the end of its line. Control characters other than
the tab are not allowed in it.
-/

namespace Prosopography.Toml

/-- Characters that may stand in comments and strings. -/
def isText (c : Char) : Bool := c == '\t' || (c.toNat ≥ 0x20 && c.toNat != 0x7F)

/-- The blanks within a line. -/
def isBlank (c : Char) : Bool := c == ' ' || c == '\t'

/-- The rest of a line behind its first blanks. -/
def skipBlanks (s : List Char) : List Char := s.dropWhile isBlank

/-- What follows the end of a line, if the text starts with one. -/
def newline? : List Char → Option (List Char)
  | '\n' :: s => some s
  | '\r' :: '\n' :: s => some s
  | _ => none

/-- The rest of a text behind a comment, if one stands at its start. -/
def skipComment : List Char → List Char
  | '#' :: s => s.dropWhile isText
  | s => s

/-- Nothing but blanks and a comment may follow on the line. -/
def endLine? (s : List Char) : Option (List Char) :=
  match skipComment (skipBlanks s) with
  | [] => some []
  | s => newline? s

/-- Skips blanks and the ends of lines. -/
def skipBlankLines : List Char → List Char
  | [] => []
  | '\r' :: '\n' :: s => skipBlankLines s
  | c :: s => if isBlank c || c == '\n' then skipBlankLines s else c :: s

/-- Skips blanks, the ends of lines and comments. -/
def skipGap (s : List Char) : List Char := go s.length s
where
  go : Nat → List Char → List Char
    | 0, s => s
    | n + 1, s =>
      match skipBlankLines s with
      | '#' :: s => go n (s.dropWhile isText)
      | s => s

end Prosopography.Toml
