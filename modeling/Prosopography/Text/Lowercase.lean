import Prosopography.Text.Casing

/-!
# Lowercase

Every character is mapped by the table; only the capital sigma also looks at
its neighbours, since at the end of a word it has a form of its own.
-/

namespace Prosopography.Text

/-- The lowercase of a code point of the run. -/
def CaseRun.lower? (run : CaseRun) (n : Nat) : Option Nat :=
  if run.first ≤ n ∧ n ≤ run.last ∧ (n - run.first) % run.step = 0 then
    some (n + run.shift).toNat
  else none

/-- The mapping of a code point by runs in increasing order. -/
def lowerAmong? : List CaseRun → Nat → Option Nat
  | [], _ => none
  | run :: runs, n => if n < run.first then none else run.lower? n <|> lowerAmong? runs n

/-- The lowercase form of a character on its own. -/
def lowerChar (c : Char) : List Char :=
  if c = 'İ' then ['i', '\u0307']
  else match lowerAmong? lowerRuns c.toNat with
    | some n => [Char.ofNat n]
    | none => [c]

/-- Whether a cased character comes first once the ignorable ones are skipped. -/
def startsCased (s : List Char) : Bool :=
  match s.dropWhile isCaseIgnorable with
  | [] => false
  | c :: _ => isCased c

/-- Lowercase of `s`, where `before` holds the characters before it, nearest first. -/
def lowercaseAfter (before : List Char) : List Char → List Char
  | [] => []
  | c :: s =>
    (if c = 'Σ' then
      [if startsCased before && !startsCased s then 'ς' else 'σ']
    else lowerChar c) ++ lowercaseAfter (c :: before) s

/-- The lowercase of a text. -/
def lowercase (s : List Char) : List Char := lowercaseAfter [] s

/-- The lowercase of a string. -/
def lowercased (s : String) : String := String.ofList (lowercase s.toList)

/-- Equality of labels: ASCII letters count the same in either case. -/
def sameLabel (a b : String) : Bool := a.toList.map Char.toLower == b.toList.map Char.toLower

end Prosopography.Text
