import Prosopography.Toml.Basic

/-!
# Dates and times in TOML text

A moment is a date, a time of day, or both with an optional offset from universal
time. Days exist in their month, and a minute may have a leap second.
-/

namespace Prosopography.Toml

/-- A number of exactly `n` digits after those in `acc`. -/
def readFixed : Nat → Nat → Reader Nat
  | 0, acc, s => some (acc, s)
  | _ + 1, _, [] => none
  | n + 1, acc, c :: s =>
    if c.isDigit then readFixed n (acc * 10 + (c.toNat - 0x30)) s else none

/-- A number of two digits in a closed range. -/
def readTwo (lo hi : Nat) : Reader Nat := fun s => do
  let (n, s) ← readFixed 2 0 s
  if lo ≤ n ∧ n ≤ hi then some (n, s) else none

/-- The rest of a text behind one given character. -/
def skipMark? (mark : Char) : List Char → Option (List Char)
  | c :: s => if c = mark then some s else none
  | [] => none

/-- Whether February has 29 days in a year. -/
def isLeapYear (y : Nat) : Bool := y % 4 == 0 && (y % 100 != 0 || y % 400 == 0)

/-- How many days a month has. -/
def daysInMonth (y m : Nat) : Nat :=
  if m = 2 then (if isLeapYear y then 29 else 28)
  else if m = 4 ∨ m = 6 ∨ m = 9 ∨ m = 11 then 30
  else 31

/-- What follows a date. -/
def skipDate? (s : List Char) : Option (List Char) := do
  let (y, s) ← readFixed 4 0 s
  let s ← skipMark? '-' s
  let (m, s) ← readTwo 1 12 s
  let s ← skipMark? '-' s
  let (d, s) ← readTwo 1 31 s
  if d ≤ daysInMonth y m then some s else none

/-- What follows the fraction of a second, if there is one. -/
def skipFraction : List Char → List Char
  | '.' :: c :: s => if c.isDigit then s.dropWhile Char.isDigit else '.' :: c :: s
  | s => s

/-- What follows a time of day. -/
def skipTime? (s : List Char) : Option (List Char) := do
  let (_, s) ← readTwo 0 23 s
  let s ← skipMark? ':' s
  let (_, s) ← readTwo 0 59 s
  let s ← skipMark? ':' s
  let (_, s) ← readTwo 0 60 s
  return skipFraction s

/-- What follows an offset from universal time, if there is one. -/
def skipOffset : List Char → List Char
  | 'Z' :: s => s
  | 'z' :: s => s
  | c :: s =>
    if c = '+' ∨ c = '-' then
      let rest? := do
        let (_, s) ← readTwo 0 23 s
        let s ← skipMark? ':' s
        let (_, s) ← readTwo 0 59 s
        return s
      rest?.getD (c :: s)
    else c :: s
  | [] => []

/-- What follows the time that may stand after a date. -/
def skipTimeOfDate : List Char → List Char
  | c :: s =>
    if c = 'T' ∨ c = 't' ∨ c = ' ' then ((skipTime? s).map skipOffset).getD (c :: s) else c :: s
  | [] => []

/-- Reads a date, a time or both, which are kept as the text they are. -/
def readMoment : Reader Toml := fun s => do
  let rest ← ((skipDate? s).map skipTimeOfDate) <|> skipTime? s
  return (moment (String.ofList (s.take (s.length - rest.length))), rest)

end Prosopography.Toml
