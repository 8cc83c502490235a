import Prosopography.Pattern.Search
import Prosopography.Text.Blank
import Prosopography.Text.Digit
import Prosopography.Text.WordChar

/-!
# Years of trial dates

A date written year-month-day gives its year, whatever the year. From any other
text the first standalone number between 1500 and 1699 is taken.
-/

namespace Prosopography.Trial

open Text

/-- The value of one of the digits from 0 to 9. -/
def asciiDigit? (c : Char) : Option Nat :=
  if '0' ≤ c ∧ c ≤ '9' then some (c.toNat - '0'.toNat) else none

/-- The value of ASCII digits, at most `width` of them, and the rest; `none` if there is none. -/
def number? (width : Nat) (s : List Char) : Option (Nat × List Char) :=
  let ds := (s.take width).takeWhile fun c => (asciiDigit? c).isSome
  if ds.isEmpty then none
  else some (ds.foldl (fun n c => n * 10 + (asciiDigit? c).getD 0) 0, s.drop ds.length)

/-- Whether February has 29 days in a year. -/
def isLeapYear (year : Int) : Bool :=
  year % 4 = 0 && (year % 100 ≠ 0 || year % 400 = 0)

/-- How many days a month has. -/
def daysIn (year : Int) (month : Nat) : Nat :=
  if month = 2 then (if isLeapYear year then 29 else 28)
  else if month ∈ [4, 6, 9, 11] then 30
  else 31

/-- The years of the calendar. -/
def firstYear : Int := -262143

/-- The last year of the calendar. -/
def lastYear : Int := 262142

/-- The year of a full date. A year has at most four digits unless it carries a sign; blanks
may stand before each number. -/
def calendarYear? (s : List Char) : Option Int := do
  let s := s.dropWhile isBlank
  let (year, s) ← match s with
    | '-' :: s => (number? s.length s).map fun (n, s) => (-(n : Int), s)
    | '+' :: s => (number? s.length s).map fun (n, s) => ((n : Int), s)
    | s => (number? 4 s).map fun (n, s) => ((n : Int), s)
  let '-' :: s := s | none
  let (month, s) ← number? 2 (s.dropWhile isBlank)
  let '-' :: s := s | none
  let (day, s) ← number? 2 (s.dropWhile isBlank)
  if s.isEmpty ∧ firstYear ≤ year ∧ year ≤ lastYear ∧ 1 ≤ month ∧ month ≤ 12 ∧
      1 ≤ day ∧ day ≤ daysIn year month then
    some year
  else none

/-- Four digits that begin with 15 or 16 and stand apart from other word characters. -/
def standaloneYear : Pattern :=
  .edge isWordChar ++ .text "1" ++ .one (fun c => c == '5' || c == '6') ++
    .one isDigit ++ .one isDigit ++ .edge isWordChar

/-- The year named first in a text. Digits of other scripts stand for no number. -/
def namedYear? (s : List Char) : Option Int := do
  let found ← standaloneYear.find? s
  if found.all (fun c => (asciiDigit? c).isSome) then
    (number? 4 found).map fun (n, _) => (n : Int)
  else none

/-- The year of a date. -/
def yearOf (date : String) : Option Int :=
  let s := trim date.toList
  match calendarYear? s with
  | some year => some year
  | none => namedYear? s

end Prosopography.Trial
