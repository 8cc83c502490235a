/-!
# Patterns over text

A pattern describes a stretch of text. Where several stretches match at one
position the pattern itself says which is preferred: alternatives in order,
repetitions long first or short first. The function `first` tries them in that
order; the relation `Spans` says which stretches match at all.
-/

namespace Prosopography

/-- A position in a text: the characters before it, nearest first, and the rest. -/
structure Cursor where
  before : List Char
  rest : List Char
deriving Repr, DecidableEq

namespace Cursor

/-- The position before a text. -/
def ofText (s : List Char) : Cursor := ⟨[], s⟩

/-- The whole text. -/
def text (c : Cursor) : List Char := c.before.reverse ++ c.rest

/-- Steps over the given characters. -/
def skip? : List Char → Cursor → Option Cursor
  | [], c => some c
  | _ :: _, ⟨_, []⟩ => none
  | x :: w, ⟨b, y :: s⟩ => if x = y then skip? w ⟨y :: b, s⟩ else none

end Cursor

/-- A set of texts, with an order of preference among the ways to match. -/
inductive Pattern where
  | empty
  /-- One character of a class. -/
  | one (p : Char → Bool)
  /-- The given characters, one after the other. -/
  | chars (w : List Char)
  /-- Characters of a class, as many as possible. -/
  | many (p : Char → Bool)
  /-- Characters of a class, as few as possible. -/
  | few (p : Char → Bool)
  | seq (a b : Pattern)
  /-- Either of two, the first one preferred. -/
  | alt (a b : Pattern)
  /-- Between a character of a class and its absence, in either order. -/
  | edge (p : Char → Bool)

namespace Pattern

instance : Append Pattern := ⟨seq⟩

/-- The characters of a text. -/
def text (s : String) : Pattern := chars s.toList

/-- Characters of a class, at least one and as many as possible. -/
def some1 (p : Char → Bool) : Pattern := one p ++ many p

/-- A pattern or nothing, the pattern if possible. -/
def optional (p : Pattern) : Pattern := alt p empty

/-- Any of several patterns, earlier ones preferred. -/
def anyOf : List Pattern → Pattern
  | [] => one fun _ => false
  | [p] => p
  | p :: q :: ps => alt p (anyOf (q :: ps))

/-- Whether one of the characters around a position is in a class and the other is not. -/
def isEdge (p : Char → Bool) (c : Cursor) : Bool := c.before.head?.any p != c.rest.head?.any p

/-- The longest run first, then ever shorter ones. -/
def firstMany (p : Char → Bool) {β : Type} (accept : Cursor → Option β) :
    List Char → List Char → Option β
  | b, [] => accept ⟨b, []⟩
  | b, x :: s =>
    (if p x then firstMany p accept (x :: b) s else none) <|> accept ⟨b, x :: s⟩

/-- The shortest run first, then ever longer ones. -/
def firstFew (p : Char → Bool) {β : Type} (accept : Cursor → Option β) :
    List Char → List Char → Option β
  | b, [] => accept ⟨b, []⟩
  | b, x :: s =>
    accept ⟨b, x :: s⟩ <|> (if p x then firstFew p accept (x :: b) s else none)

/-- Tries the matches at a cursor in order of preference and gives the answer
of the first one whose end is accepted. -/
def first : Pattern → {β : Type} → (Cursor → Option β) → Cursor → Option β
  | empty, _, accept, c => accept c
  | one p, _, accept, ⟨b, s⟩ =>
    match s with
    | [] => none
    | x :: s => if p x then accept ⟨x :: b, s⟩ else none
  | chars w, _, accept, c => (c.skip? w).bind accept
  | many p, _, accept, c => firstMany p accept c.before c.rest
  | few p, _, accept, c => firstFew p accept c.before c.rest
  | seq a b, _, accept, c => a.first (fun d => b.first accept d) c
  | alt a b, _, accept, c => a.first accept c <|> b.first accept c
  | edge p, _, accept, c => if isEdge p c then accept c else none

/-- `p.Spans c d`: some match of `p` starts at `c` and ends at `d`. -/
inductive Spans : Pattern → Cursor → Cursor → Prop
  | empty {c} : Spans empty c c
  | one {p x b s} : p x = true → Spans (one p) ⟨b, x :: s⟩ ⟨x :: b, s⟩
  | chars {w b s} : Spans (chars w) ⟨b, w ++ s⟩ ⟨w.reverse ++ b, s⟩
  | manyStop {p c} : Spans (many p) c c
  | manyStep {p x b s d} : p x = true → Spans (many p) ⟨x :: b, s⟩ d →
      Spans (many p) ⟨b, x :: s⟩ d
  | fewStop {p c} : Spans (few p) c c
  | fewStep {p x b s d} : p x = true → Spans (few p) ⟨x :: b, s⟩ d →
      Spans (few p) ⟨b, x :: s⟩ d
  | seq {a b c d e} : Spans a c d → Spans b d e → Spans (seq a b) c e
  | altLeft {a b c d} : Spans a c d → Spans (alt a b) c d
  | altRight {a b c d} : Spans b c d → Spans (alt a b) c d
  | edge {p c} : isEdge p c = true → Spans (edge p) c c

end Pattern

end Prosopography
