import Prosopography.Proofs.Pattern.Removal

/-!
# The longest ending

Marks stand at positions of the text only, so the longest ending that the marks give begins at
the first position from which a match reaches the end.
-/

namespace Prosopography

namespace Marks

/-- No mark lies outside a text of this length. -/
def Within (n : Nat) (k : Marks) : Prop := ∀ i, n < i → k.getD i false = false

theorem within_of_length_le {n : Nat} {k : Marks} (h : k.length ≤ n + 1) : Within n k := by
  intro i hi
  rw [List.getD_eq_getElem?_getD, List.getElem?_eq_none (by omega)]
  rfl

theorem length_passedOne (p : Char → Bool) (before : List Char) (k : Marks) :
    (passedOne p before k).length ≤ before.length := by
  fun_induction passedOne p before k with
  | case1 x before m k ih => simpa using ih
  | case2 => exact Nat.zero_le _

theorem length_runs (p : Char → Bool) (further : Bool) (before : List Char) (k : Marks) :
    (runs p further before k).length ≤ before.length + 1 := by
  fun_induction runs p further before k <;> simp_all

theorem length_atEdges (p : Char → Bool) (after : Bool) (before : List Char) (k : Marks) :
    (atEdges p after before k).length ≤ before.length + 1 := by
  fun_induction atEdges p after before k <;> simp_all

theorem getD_union (k k' : Marks) (i : Nat) :
    (union k k').getD i false = (k.getD i false || k'.getD i false) := by
  fun_induction union k k' generalizing i with
  | case1 k => simp
  | case2 k => simp
  | case3 m k n k' ih =>
      cases i with
      | zero => rfl
      | succ i => exact ih i

theorem within_passed {w before : List Char} {k : Marks} (h : Within before.length k) :
    Within before.length (List.replicate w.length false ++ passed w.reverse before k) := by
  intro i hi
  rw [List.getD_eq_getElem?_getD]
  by_cases hw : w.length ≤ i
  · rw [List.getElem?_append_right (by simpa using hw), ← List.getD_eq_getElem?_getD,
      List.length_replicate, getD_passed, Bool.and_eq_false_iff]
    by_cases hout : before.length < i - w.length
    · exact .inl (h _ hout)
    · -- The characters do not fit between the start of the text and the mark.
      refine .inr (Bool.eq_false_iff.mpr fun hprefix => ?_)
      have hle := (List.isPrefixOf_iff_prefix.mp hprefix).length_le
      rw [List.length_reverse, List.length_drop] at hle
      omega
  · rw [List.getElem?_append_left (by simpa using hw)]
    simp [Nat.lt_of_not_le hw]

theorem Within.orNone {n : Nat} {k : Marks} (h : Within n k) : Within n (orNone k) := by
  rw [Marks.orNone]
  split
  · exact h
  · exact fun _ _ => rfl

theorem getD_of_lastFrom {found : Option Nat} {i n : Nat} {k : Marks}
    (h : lastFrom found i k = some n) :
    found = some n ∨ ∃ j, i + j = n ∧ k.getD j false = true := by
  fun_induction lastFrom found i k with
  | case1 found i => exact .inl h
  | case2 found i m k ih =>
      obtain hhere | ⟨j, rfl, hj⟩ := ih h
      · cases m with
        | false => exact .inl hhere
        | true => exact .inr ⟨0, Option.some.inj hhere, rfl⟩
      · exact .inr ⟨j + 1, by omega, hj⟩

end Marks

namespace Pattern

open Marks

/-- The marks of a pattern lie within the text. -/
theorem within_reach (p : Pattern) {before : List Char} {k : Marks}
    (h : Within before.length k) : Within before.length (p.reach before k) := by
  induction p generalizing k with
  | empty => exact h
  | one p =>
      refine within_of_length_le ?_
      rw [reach, List.length_cons]
      exact Nat.succ_le_succ (length_passedOne p before k)
  | chars w => exact (within_passed h).orNone
  | many p | few p => exact within_of_length_le (length_runs p false before k)
  | seq a b iha ihb => exact iha (ihb h)
  | alt a b iha ihb =>
      intro i hi
      rw [reach, getD_union, iha h i hi, ihb h i hi]
      rfl
  | edge p => exact within_of_length_le (length_atEdges p false before k)

/-- A match reaches the end from where the longest ending begins. -/
theorem leads_of_longestEnding? {p : Pattern} {s : List Char} {n : Nat}
    (h : p.longestEnding? s = some n) :
    ∃ c : Cursor, c.text = s ∧ c.rest.length = n ∧ p.Leads (·.rest = []) c := by
  rw [longestEnding?] at h
  split at h
  · obtain hnone | ⟨j, hj, hmark⟩ := getD_of_lastFrom h
    · cases hnone
    · rw [Nat.zero_add] at hj
      subst hj
      have hwithin : Within s.reverse.length (p.reach s.reverse [true]) :=
        p.within_reach (within_of_length_le (Nat.succ_le_succ (Nat.zero_le _)))
      have hle : j ≤ s.length := by
        refine Nat.le_of_not_lt fun hlt => ?_
        rw [hwithin j (by simpa using hlt)] at hmark
        exact Bool.false_ne_true hmark
      obtain ⟨c, hc, rfl⟩ : ∃ c : Cursor, c.text = s ∧ c.rest.length = j := by
        refine ⟨⟨(s.take (s.length - j)).reverse, s.drop (s.length - j)⟩, ?_, ?_⟩
        · simp [Cursor.text]
        · rw [List.length_drop]
          omega
      exact ⟨c, hc, rfl, (getD_reach_iff hc).mp hmark⟩
  · cases h

end Pattern

end Prosopography
