import Prosopography.Name.Similarity
import Mathlib.Data.List.Infix
import Mathlib.Order.Bounds.Basic
import Mathlib.Order.MinMax

/-!
# Longest common subsequences

Texts are compared row by row: a row belongs to a start of the first text and holds one number
for every start of the second. Each of these numbers is the length of a longest common
subsequence of the two starts, and so is the last number of the last row.
-/

namespace Prosopography.Similarity

/-- The lengths of the common subsequences of two texts. -/
def commonLengths (a b : List Char) : Set Nat :=
  {n | ∃ s : List Char, s.Sublist a ∧ s.Sublist b ∧ s.length = n}

variable {a b : List Char} {x y : Char} {n : Nat}

/-- A subsequence of a longer text either lies in the text itself or takes the new last
character. -/
theorem sublist_or_eq_concat {s : List Char} (h : s.Sublist (a ++ [x])) :
    s.Sublist a ∨ ∃ r : List Char, s = r ++ [x] ∧ r.Sublist a := by
  obtain ⟨r, t, rfl, hr, ht⟩ := List.sublist_append_iff.mp h
  rcases List.sublist_singleton.mp ht with rfl | rfl
  · exact .inl (by rwa [List.append_nil])
  · exact .inr ⟨r, rfl, hr⟩

theorem dropLast_sublist_of_concat {s : List Char} (h : s.Sublist (a ++ [x])) :
    s.dropLast.Sublist a := by
  rcases sublist_or_eq_concat h with h | ⟨r, rfl, hr⟩
  · exact (List.dropLast_sublist s).trans h
  · rwa [List.dropLast_concat]

theorem isGreatest_nil_left (b : List Char) : IsGreatest (commonLengths [] b) 0 := by
  refine ⟨⟨[], .refl _, List.nil_sublist b, rfl⟩, ?_⟩
  rintro _ ⟨s, hs, -, rfl⟩
  rw [List.sublist_nil.mp hs, List.length_nil]

theorem isGreatest_nil_right (a : List Char) : IsGreatest (commonLengths a []) 0 := by
  refine ⟨⟨[], List.nil_sublist a, .refl _, rfl⟩, ?_⟩
  rintro _ ⟨s, -, hs, rfl⟩
  rw [List.sublist_nil.mp hs, List.length_nil]

/-- A character at the end of both texts is worth taking: whatever is common to the longer texts
is, without its last character, common to the shorter ones. -/
theorem isGreatest_concat (h : IsGreatest (commonLengths a b) n) (x : Char) :
    IsGreatest (commonLengths (a ++ [x]) (b ++ [x])) (n + 1) := by
  obtain ⟨⟨s, hsa, hsb, rfl⟩, hmax⟩ := h
  constructor
  · exact ⟨s ++ [x], hsa.append_right [x], hsb.append_right [x], by simp⟩
  · rintro _ ⟨t, hta, htb, rfl⟩
    have hshort : t.dropLast.length ≤ s.length :=
      hmax ⟨_, dropLast_sublist_of_concat hta, dropLast_sublist_of_concat htb, rfl⟩
    rw [List.length_dropLast] at hshort
    omega

/-- Of two different last characters a common subsequence leaves one out. -/
theorem isGreatest_max {up left : Nat} (hxy : x ≠ y)
    (hup : IsGreatest (commonLengths a (b ++ [y])) up)
    (hleft : IsGreatest (commonLengths (a ++ [x]) b) left) :
    IsGreatest (commonLengths (a ++ [x]) (b ++ [y])) (max up left) := by
  constructor
  · rcases max_choice up left with hmax | hmax
    · obtain ⟨s, hsa, hsb, hs⟩ := hup.1
      exact ⟨s, hsa.trans (List.sublist_append_left a [x]), hsb, hs.trans hmax.symm⟩
    · obtain ⟨s, hsa, hsb, hs⟩ := hleft.1
      exact ⟨s, hsa, hsb.trans (List.sublist_append_left b [y]), hs.trans hmax.symm⟩
  · rintro _ ⟨s, hsa, hsb, rfl⟩
    rcases sublist_or_eq_concat hsa with hs | ⟨r, rfl, -⟩
    · exact le_max_of_le_left (hup.2 ⟨s, hs, hsb, rfl⟩)
    · rcases sublist_or_eq_concat hsb with hs | ⟨t, heq, -⟩
      · exact le_max_of_le_right (hleft.2 ⟨_, hsa, hs, rfl⟩)
      · exact absurd (List.append_inj_right' heq rfl) (by simpa using hxy)

/-- A row of `a`: what `a` has in common with the starts of a text that go beyond `done`. -/
inductive Row (a : List Char) : (done todo : List Char) → List Nat → Prop
  | nil (done : List Char) : Row a done [] []
  | cons {done todo : List Char} {y : Char} {n : Nat} {row : List Nat}
    (head : IsGreatest (commonLengths a (done ++ [y])) n) (tail : Row a (done ++ [y]) todo row) :
    Row a done (y :: todo) (n :: row)

theorem Row.zeros (done todo : List Char) : Row [] done todo (List.replicate todo.length 0) := by
  induction todo generalizing done with
  | nil => exact .nil done
  | cons y todo ih => exact .cons (isGreatest_nil_left _) (ih (done ++ [y]))

/-- From the row of a text comes the row of the text with one more character. The entries passed
along are those of both rows for what is done. -/
theorem Row.next {done todo : List Char} {row : List Nat} (h : Row a done todo row) {x : Char}
    {diagonal left : Nat} (hdiagonal : IsGreatest (commonLengths a done) diagonal)
    (hleft : IsGreatest (commonLengths (a ++ [x]) done) left) :
    Row (a ++ [x]) done todo (nextRow x diagonal left todo row) := by
  induction h generalizing diagonal left with
  | nil done =>
      rw [nextRow]
      · exact .nil done
      · rintro _ _ _ _ ⟨⟩
  | @cons done todo y up row hup _ ih =>
      have hhere : IsGreatest (commonLengths (a ++ [x]) (done ++ [y]))
          (if x = y then diagonal + 1 else max up left) := by
        split
        · rename_i hxy
          subst hxy
          exact isGreatest_concat hdiagonal x
        · rename_i hxy
          exact isGreatest_max hxy hup hleft
      rw [nextRow]
      exact .cons hhere (ih hup hhere)

/-- The last row of the table is the row of the whole first text. -/
theorem row_lastRow (a b : List Char) : Row a [] b (lastRow a b) := by
  have run : ∀ (todo done : List Char) (row : List Nat), Row done [] b row →
      Row (done ++ todo) [] b (todo.foldl (fun row x => nextRow x 0 0 b row) row) := by
    intro todo
    induction todo with
    | nil =>
        intro done row h
        rwa [List.append_nil]
    | cons x todo ih =>
        intro done row h
        rw [List.foldl_cons, List.append_cons]
        exact ih (done ++ [x]) _ (h.next (isGreatest_nil_right _) (isGreatest_nil_right _))
  exact run a [] _ (.zeros [] b)

/-- The last entry of a row is that of the whole text. -/
theorem Row.getLast {done todo : List Char} {row : List Nat} (h : Row a done todo row)
    (hn : IsGreatest (commonLengths a done) n) :
    IsGreatest (commonLengths a (done ++ todo)) (row.getLast?.getD n) := by
  induction h generalizing n with
  | nil done => simpa using hn
  | cons hhead _ ih =>
      rw [List.append_cons, List.getLast?_cons, Option.getD_some]
      exact ih hhead

/-- The length is that of a common subsequence. -/
theorem commonLength_mem (a b : List Char) : commonLength a b ∈ commonLengths a b :=
  ((row_lastRow a b).getLast (isGreatest_nil_right a)).1

/-- No common subsequence is longer. -/
theorem le_commonLength (h : n ∈ commonLengths a b) : n ≤ commonLength a b :=
  ((row_lastRow a b).getLast (isGreatest_nil_right a)).2 h

/-- The common length of two texts is the length of one of their common subsequences, and none of
these is longer. -/
theorem isGreatest_commonLength (a b : List Char) :
    IsGreatest (commonLengths a b) (commonLength a b) :=
  ⟨commonLength_mem a b, fun _ => le_commonLength⟩

example : commonLength "jean".toList "jehan".toList = 4 := by decide

end Prosopography.Similarity
