import Prosopography.Pattern

/-!
# Searching a text from its start

Positions are tried from left to right, and at each of them the preferred match
is taken. A text that lacks the characters every match needs is not tried at all.
-/

namespace Prosopography

namespace Pattern

/-- Whether `x :: w` occurs in a text. -/
def occurs (x : Char) (w : List Char) : List Char → Bool
  | [] => false
  | y :: s => (x == y && w.isPrefixOf s) || occurs x w s

/-- Whether a text holds the characters that a match cannot do without. -/
def mayMatch : Pattern → List Char → Bool
  | one p, s => s.any p
  | chars (x :: w), s => occurs x w s
  | seq a b, s => a.mayMatch s && b.mayMatch s
  | alt a b, s => a.mayMatch s || b.mayMatch s
  | _, _ => true

/-- The characters a match may begin with, where the pattern starts with given ones. -/
def firstChars? : Pattern → Option (List Char)
  | chars (x :: _) => some [x]
  | seq (edge _) b => b.firstChars?
  | seq a _ => a.firstChars?
  | alt a b => do return (← a.firstChars?) ++ (← b.firstChars?)
  | _ => none

/-- Whether a match may begin with a character, if it begins with one of `heads`. -/
def mayBegin (heads : Option (List Char)) (x : Char) : Bool :=
  match heads with
  | none => true
  | some cs => cs.contains x

/-- The number of characters in the preferred match at a cursor. -/
def matchLength? (p : Pattern) (c : Cursor) : Option Nat :=
  p.first (fun d => some (c.rest.length - d.rest.length)) c

/-- The leftmost match between `before` and the end of the text. -/
def findFrom (p : Pattern) (before : List Char) : List Char → Option (List Char)
  | [] => (p.matchLength? ⟨before, []⟩).map fun _ => []
  | x :: s =>
    match p.matchLength? ⟨before, x :: s⟩ with
    | some n => some ((x :: s).take n)
    | none => p.findFrom (x :: before) s

/-- The text of the leftmost match. -/
def find? (p : Pattern) (s : List Char) : Option (List Char) :=
  if p.mayMatch s then p.findFrom [] s else none

/-- Removes one match after the other, each search starting where the last match ended; the
next `skip` characters still belong to that match. Only matches that begin with one of `heads`
are tried. -/
def removeFrom (p : Pattern) (heads : Option (List Char)) :
    Nat → List Char → List Char → List Char
  | _, _, [] => []
  | skip + 1, before, x :: s => p.removeFrom heads skip (x :: before) s
  | 0, before, x :: s =>
    if mayBegin heads x then
      match p.matchLength? ⟨before, x :: s⟩ with
      | some (n + 1) => p.removeFrom heads n (x :: before) s
      | _ => x :: p.removeFrom heads 0 (x :: before) s
    else x :: p.removeFrom heads 0 (x :: before) s

/-- Removes all matches. -/
def removeAll (p : Pattern) (s : List Char) : List Char :=
  if p.mayMatch s then p.removeFrom p.firstChars? 0 [] s else s

/-- Removes the match at the start of a text. -/
def removeAtStart (p : Pattern) (s : List Char) : List Char :=
  match p.matchLength? (.ofText s) with
  | some n => s.drop n
  | none => s

end Pattern

end Prosopography
