import Prosopography.Text.Digit
import Prosopography.Text.WordChar

/-!
# Digits in words

Digits of all scripts are characters of words. The ranges of both classes are in increasing order,
so that one pass over the two tables shows it.
-/

namespace Prosopography.Text

namespace CodePoints

/-- Whether the range `r` is a part of the range `q`. -/
def liesIn (q r : Nat × Nat) : Bool := decide (q.1 ≤ r.1 ∧ r.2 ≤ q.2)

/-- Whether every range of a set lies in one of another set, both in increasing order. -/
def covers : CodePoints → CodePoints → Bool
  | [], inner => inner.isEmpty
  | q :: outer, inner =>
    let rest := inner.dropWhile (liesIn q)
    rest.head?.all (fun r => decide (q.1 ≤ r.1)) && covers outer rest

theorem contains_cons_iff {r : Nat × Nat} {rest : CodePoints} {n : Nat} :
    contains (r :: rest) n = true ↔ r.1 ≤ n ∧ (n ≤ r.2 ∨ contains rest n = true) := by
  simp [contains]

/-- A code point is in the range that others lie in, or in one of the ranges after those. -/
theorem contains_dropWhile {q : Nat × Nat} {inner : CodePoints} {n : Nat}
    (h : inner.contains n = true) :
    (q.1 ≤ n ∧ n ≤ q.2) ∨ contains (inner.dropWhile (liesIn q)) n = true := by
  induction inner with
  | nil => exact .inr h
  | cons r inner ih =>
      by_cases hr : liesIn q r = true
      · rw [List.dropWhile_cons_of_pos hr]
        have hbounds := of_decide_eq_true hr
        obtain ⟨hlow, hhigh | hlater⟩ := contains_cons_iff.mp h
        · exact .inl (by omega)
        · exact ih hlater
      · rw [List.dropWhile_cons_of_neg hr]
        exact .inr h

/-- Ranges that cover others contain their code points. -/
theorem contains_of_covers {outer inner : CodePoints} (hcovers : covers outer inner = true)
    {n : Nat} (h : inner.contains n = true) : outer.contains n = true := by
  induction outer generalizing inner with
  | nil =>
      rw [List.isEmpty_iff.mp hcovers] at h
      exact h
  | cons q outer ih =>
      obtain ⟨hhead, hrest⟩ := Bool.and_eq_true_iff.mp hcovers
      rw [contains_cons_iff]
      obtain ⟨hlow, hhigh⟩ | hlater := contains_dropWhile (q := q) h
      · exact ⟨hlow, .inl hhigh⟩
      · refine ⟨?_, .inr (ih hrest hlater)⟩
        -- The search through the outer set must not stop at `q`, which begins no later.
        cases hdrop : inner.dropWhile (liesIn q) with
        | nil => simp [hdrop, contains] at hlater
        | cons r rest =>
            rw [hdrop] at hhead hlater
            exact Nat.le_trans (of_decide_eq_true hhead) (contains_cons_iff.mp hlater).1

end CodePoints

/-- Digits stand in words. -/
theorem isWordChar_of_isDigit {c : Char} (h : isDigit c = true) : isWordChar c = true :=
  CodePoints.contains_of_covers (by decide +kernel) h

end Prosopography.Text
