import Prosopography.Trial.Date
import Mathlib.Tactic.Ring

/-!
# The range of years

Whatever a date says, its year is one of the calendar: a full date is only taken within
it, and a year named in a text has four digits.
-/

namespace Prosopography.Trial

theorem asciiDigit?_lt {c : Char} {d : Nat} (h : asciiDigit? c = some d) : d < 10 := by
  rw [asciiDigit?, Option.ite_none_right_eq_some] at h
  obtain ⟨⟨-, hle⟩, hd⟩ := h
  have hc : c.toNat ≤ '9'.toNat := hle
  obtain rfl := Option.some.inj hd
  have hbounds : '9'.toNat = 57 ∧ '0'.toNat = 48 := ⟨rfl, rfl⟩
  omega

theorem getD_asciiDigit?_lt (c : Char) : (asciiDigit? c).getD 0 < 10 := by
  cases hc : asciiDigit? c with
  | none => decide
  | some d => exact asciiDigit?_lt hc

theorem foldl_digits_lt (ds : List Char) (n : Nat) :
    ds.foldl (fun n c => n * 10 + (asciiDigit? c).getD 0) n < (n + 1) * 10 ^ ds.length := by
  induction ds generalizing n with
  | nil => simp
  | cons c ds ih =>
      have hdigit := getD_asciiDigit?_lt c
      rw [List.foldl_cons, List.length_cons]
      calc
        _ < (n * 10 + (asciiDigit? c).getD 0 + 1) * 10 ^ ds.length := ih _
        _ ≤ (n + 1) * 10 * 10 ^ ds.length := Nat.mul_le_mul_right _ (by omega)
        _ = (n + 1) * 10 ^ (ds.length + 1) := by ring

/-- A number of so many digits is less than that power of ten. -/
theorem number?_lt {width n : Nat} {s rest : List Char} (h : number? width s = some (n, rest)) :
    n < 10 ^ width := by
  rw [number?] at h
  split at h
  · simp at h
  · obtain ⟨hn, -⟩ := Prod.mk.inj (Option.some.inj h)
    have hlength := (List.takeWhile_sublist fun c => (asciiDigit? c).isSome).length_le.trans
      (List.length_take_le width s)
    calc
      n < (0 + 1) * 10 ^ _ := hn ▸ foldl_digits_lt _ 0
      _ ≤ 10 ^ width := by
        rw [Nat.zero_add, Nat.one_mul]
        exact Nat.pow_le_pow_right (by decide) hlength

/-- A year of the calendar. -/
def IsYear (year : Int) : Prop := firstYear ≤ year ∧ year ≤ lastYear

theorem isYear_of_calendarYear? {s : List Char} {year : Int} (h : calendarYear? s = some year) :
    IsYear year := by
  rw [calendarYear?] at h
  -- The sign only decides how the digits of the year are read.
  split at h
  all_goals
    obtain ⟨⟨read, rest⟩, -, h⟩ := Option.bind_eq_some_iff.mp h
    dsimp only at h
    split at h
    · obtain ⟨⟨month, rest⟩, -, h⟩ := Option.bind_eq_some_iff.mp h
      dsimp only at h
      split at h
      · obtain ⟨⟨day, rest⟩, -, h⟩ := Option.bind_eq_some_iff.mp h
        obtain ⟨⟨-, hfirst, hlast, -⟩, hyear⟩ := Option.ite_none_right_eq_some.mp h
        exact Option.some.inj hyear ▸ ⟨hfirst, hlast⟩
      · simp at h
    · simp at h

theorem isYear_of_namedYear? {s : List Char} {year : Int} (h : namedYear? s = some year) :
    IsYear year := by
  simp only [namedYear?, Option.bind_eq_bind, Option.bind_eq_some_iff] at h
  obtain ⟨found, -, h⟩ := h
  rw [Option.ite_none_right_eq_some, Option.map_eq_some_iff] at h
  obtain ⟨-, ⟨n, rest⟩, hn, rfl⟩ := h
  have hlt := number?_lt hn
  simp only [IsYear, firstYear, lastYear]
  omega

/-- Every year that a date gives is a year of the calendar. -/
theorem isYear_of_yearOf {date : String} {year : Int} (h : yearOf date = some year) :
    IsYear year := by
  rw [yearOf] at h
  split at h
  · rename_i hcalendar
    exact Option.some.inj h ▸ isYear_of_calendarYear? hcalendar
  · exact isYear_of_namedYear? h

end Prosopography.Trial
