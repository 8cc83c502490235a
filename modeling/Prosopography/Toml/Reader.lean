import Prosopography.Toml.Moment
import Prosopography.Toml.Number
import Prosopography.Toml.Section

/-!
# Reading TOML text

Arrays may go over several lines and end in a comma; tables in braces may not.
Values are nested less than 80 levels deep, and keys have less than 80 parts.
-/

namespace Prosopography.Toml

/-- The characters of a key without quotes. -/
def isBareKeyChar (c : Char) : Bool := c.isAlphanum || c == '-' || c == '_'

/-- Reads one part of a key, with or without quotes. -/
def readKeyPart : Reader String
  | '"' :: s => readLineStringOf '"' s
  | '\x27' :: s => readLineStringOf '\x27' s
  | s =>
    let part := s.takeWhile isBareKeyChar
    if part.isEmpty then none else some (String.ofList part, s.dropWhile isBareKeyChar)

/-- The other parts of a key after those in `path`, latest first. -/
def readKeyFrom : Nat → List String → Reader Key
  | 0, _, _ => none
  | n + 1, path, s => do
    let (part, s) ← readKeyPart (skipBlanks s)
    match skipBlanks s with
    | '.' :: s => readKeyFrom n (part :: path) s
    | s => some (⟨path.reverse, part⟩, s)

/-- Keys have at most this many parts. -/
def maxKeyParts : Nat := 79

/-- A dotted key with the blanks around it. -/
def readKey : Reader Key := readKeyFrom maxKeyParts []

/-- A key, its value read by `value`, and the blanks between them. -/
def readPair (value : Reader Toml) : Reader (Key × Toml) := fun s => do
  let (k, s) ← readKey s
  match s with
  | '=' :: s => do
    let (v, s) ← value (skipBlanks s)
    return ((k, v), s)
  | _ => none

/-- The elements of an array after its first bracket. -/
def readItems (value : Reader Toml) : Nat → List Toml → Reader Toml
  | 0, _, _ => none
  | n + 1, out, s =>
    match skipGap s with
    | ']' :: s => some (arr out.reverse, s)
    | s => do
      let (v, s) ← value s
      match skipGap s with
      | ',' :: s => readItems value n (v :: out) s
      | ']' :: s => some (arr (v :: out).reverse, s)
      | _ => none

/-- The pairs between braces, after the first of them or after a comma. -/
def readPairs (value : Reader Toml) : Nat → List (Key × Toml) → Reader (List (Key × Toml))
  | 0, _, _ => none
  | n + 1, out, s => do
    let (p, s) ← readPair value s
    match skipBlanks s with
    | ',' :: s => readPairs value n (p :: out) s
    | '}' :: s => some ((p :: out).reverse, s)
    | _ => none

/-- A table in braces, after the first of them. -/
def readBraces (value : Reader Toml) : Reader Toml := fun s =>
  match skipBlanks s with
  | '}' :: s => some (table [], s)
  | _ => do
    let (pairs, s) ← readPairs value (s.length + 1) [] s
    return (← ofPairs? pairs, s)

/-- One value; arrays and tables may still be nested `levels` deep. -/
def readValue : Nat → Reader Toml
  | levels, s =>
    match s with
    | '"' :: s => (readStringOf '"' s).map fun (t, s) => (str t, s)
    | '\x27' :: s => (readStringOf '\x27' s).map fun (t, s) => (str t, s)
    | 't' :: 'r' :: 'u' :: 'e' :: s => some (bool true, s)
    | 'f' :: 'a' :: 'l' :: 's' :: 'e' :: s => some (bool false, s)
    | '[' :: s =>
      match levels with
      | 0 => none
      | levels + 1 => readItems (readValue levels) (s.length + 1) [] s
    | '{' :: s =>
      match levels with
      | 0 => none
      | levels + 1 => readBraces (readValue levels) s
    | s => readMoment s <|> readNumber s

/-- Arrays and tables in braces are nested at most this deep. -/
def maxDepth : Nat := 79

/-- One line that says something. -/
inductive Line where
  | pair (key : Key) (v : Toml)
  | header (key : Key) (isElement : Bool)

/-- A header after its first bracket. -/
def readHeader : Reader Line
  | '[' :: s => do
    let (k, s) ← readKey s
    match s with
    | ']' :: ']' :: s => some (.header k true, s)
    | _ => none
  | s => do
    let (k, s) ← readKey s
    match s with
    | ']' :: s => some (.header k false, s)
    | _ => none

/-- Reads the header of a table or a key with its value. -/
def readLine : Reader Line
  | '[' :: s => readHeader s
  | s => (readPair (readValue maxDepth) s).map fun ((k, v), s) => (.pair k v, s)

/-- All lines of a text, at most `n` of them. -/
def readLines : Nat → List Char → Option (List Line)
  | 0, _ => none
  | n + 1, s =>
    match skipGap s with
    | [] => some []
    | s => do
      let (line, s) ← readLine s
      let s ← endLine? s
      return line :: (← readLines n s)

/-- The pairs before the first header, and the sections. -/
def sections : List Line → List (Key × Toml) × List Section
  | [] => ([], [])
  | .pair k v :: rest => ((k, v) :: (sections rest).1, (sections rest).2)
  | .header k isElement :: rest => ([], ⟨k, isElement, (sections rest).1⟩ :: (sections rest).2)

/-- A byte order mark at the start says nothing. -/
def skipByteOrderMark : List Char → List Char
  | '\uFEFF' :: s => s
  | s => s

/-- The table of a text, unless the text breaks a rule. -/
def ofString? (text : String) : Option Toml := do
  let s := skipByteOrderMark text.toList
  let lines ← readLines (s.length + 1) s
  let (pairs, sections) := sections lines
  ofSections? pairs sections

end Prosopography.Toml
