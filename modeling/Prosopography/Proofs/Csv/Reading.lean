import Prosopography.Csv.Reader
import Mathlib.Algebra.GroupWithZero.Nat

/-!
# Reading what was written

A written table reads back as its rows, whatever text the cells hold: a cell that could be
mistaken for something else is quoted, and the quotes inside it are doubled.
-/

namespace Prosopography.Csv

/-- What stands after a cell: more cells of its row, or other rows. -/
def isEnd (c : Char) : Bool := c == ',' || c == '\n'

theorem isSpecial_of_isEnd {c : Char} (h : isEnd c = true) : isSpecial c = true := by
  simp only [isEnd, Bool.or_eq_true] at h
  rcases h with h | h <;> simp [isSpecial, h]

theorem ne_quote_of_isEnd {c : Char} (h : isEnd c = true) : c ≠ '"' := by
  rintro rfl
  exact absurd h (by decide)

/-- The doubled quotes of a cell stand for single ones, up to the quote that is not doubled. -/
theorem readQuoted_doubled (s : List Char) {e : Char} (he : isEnd e = true) (t : List Char) :
    readQuoted (doubled s ++ '"' :: e :: t) = some (s, e :: t) := by
  induction s with
  | nil => simp [doubled, readQuoted, ne_quote_of_isEnd he]
  | cons c s ih =>
      rw [doubled]
      split
      · rename_i hc
        simp [readQuoted, ih, hc]
      · rename_i hc
        simp [readQuoted, ih, hc]

/-- A cell without quotes goes up to the next special character. -/
theorem readCell_of_ne_quote {s : List Char} (h : s.head? ≠ some '"') :
    readCell s = some (s.takeWhile (!isSpecial ·), s.dropWhile (!isSpecial ·)) := by
  rw [readCell.eq_def]
  split
  · simp at h
  · rfl

/-- A printed cell is read back, with or without quotes. -/
theorem readCell_cell (s : List Char) {e : Char} (he : isEnd e = true) (t : List Char) :
    readCell (cell s ++ e :: t) = some (s, e :: t) := by
  rw [cell]
  split
  · rw [List.cons_append, readCell, List.append_assoc]
    exact readQuoted_doubled s he t
  · rename_i hplain
    have hall : ∀ c ∈ s, (!isSpecial c) = true := by
      simpa [List.any_eq_true] using hplain
    rw [readCell_of_ne_quote, List.takeWhile_append_of_pos hall, List.dropWhile_append_of_pos hall]
    · simp [isSpecial_of_isEnd he]
    · cases s with
      | nil => simpa using ne_quote_of_isEnd he
      | cons c s =>
          rintro h
          obtain rfl : c = '"' := by simpa using h
          exact absurd (hall '"' List.mem_cons_self) (by decide)

section Rows

variable {n : Nat} {done : List (List Char)} {s cell t : List Char}

theorem readRows_of_comma (h : readCell s = some (cell, ',' :: t)) :
    readRows (n + 1) done s = readRows n (cell :: done) t := by
  rw [readRows, h]
  rfl

theorem readRows_of_lineFeed (h : readCell s = some (cell, '\n' :: t)) :
    readRows (n + 1) done s =
      if t = [] then some [(cell :: done).reverse]
      else (readRows n [] t).map ((cell :: done).reverse :: ·) := by
  rw [readRows, h]
  cases t with
  | nil => rfl
  | cons c t => rfl

/-- A row is read cell by cell; what is left of the bound is for the rows after it. -/
theorem readRows_row {r : List (List Char)} (hr : r ≠ []) (n : Nat) (done : List (List Char))
    (rest : List Char) :
    readRows (r.length + n) done (row r ++ rest) =
      if rest = [] then some [done.reverse ++ r]
      else (readRows n [] rest).map ((done.reverse ++ r) :: ·) := by
  -- On the cells that are left; `done` holds those that are read.
  induction r generalizing done with
  | nil => exact absurd rfl hr
  | cons s r ih =>
      cases r with
      | nil =>
          have hcell : readCell (row [s] ++ rest) = some (s, '\n' :: rest) := by
            rw [row, cells, List.append_assoc]
            exact readCell_cell s rfl rest
          rw [List.length_singleton, Nat.add_comm, readRows_of_lineFeed hcell, List.reverse_cons]
      | cons t r =>
          have hcell : readCell (row (s :: t :: r) ++ rest) =
              some (s, ',' :: (row (t :: r) ++ rest)) := by
            simp only [row, cells, List.append_assoc, List.cons_append]
            exact readCell_cell s rfl _
          have hlength : (s :: t :: r).length + n = (t :: r).length + n + 1 := by
            simp only [List.length_cons]
            omega
          rw [hlength, readRows_of_comma hcell, ih (List.cons_ne_nil t r), List.reverse_cons,
            List.append_assoc, List.singleton_append]

theorem length_le_row {r : List (List Char)} : r.length ≤ (row r).length := by
  fun_induction cells r with
  | case1 => simp
  | case2 s => simp [row]
  | case3 s t r ih =>
      simp [row, cells] at ih ⊢
      omega

theorem row_ne_nil (r : List (List Char)) : row r ≠ [] := by simp [row]

/-- Printed rows are read back. -/
theorem readRows_rows {rows : List (List (List Char))} (hrows : rows ≠ [])
    (h : ∀ r ∈ rows, r ≠ []) {n : Nat} (hn : (rows.map List.length).sum ≤ n) :
    readRows n [] (rows.flatMap row) = some rows := by
  induction rows generalizing n with
  | nil => exact absurd rfl hrows
  | cons r rows ih =>
      obtain ⟨hr, hrest⟩ := List.forall_mem_cons.mp h
      rw [List.map_cons, List.sum_cons] at hn
      obtain ⟨m, rfl⟩ := Nat.exists_eq_add_of_le (Nat.le_of_add_right_le hn)
      rw [List.flatMap_cons, readRows_row hr]
      cases rows with
      | nil => rfl
      | cons t rows =>
          have hne : (t :: rows).flatMap row ≠ [] := by simp [row_ne_nil]
          rw [if_neg hne, ih (List.cons_ne_nil t rows) hrest (by omega)]
          rfl

theorem sum_length_le (rows : List (List (List Char))) :
    (rows.map List.length).sum ≤ (rows.flatMap row).length := by
  induction rows with
  | nil => exact Nat.le_refl 0
  | cons r rows ih =>
      rw [List.map_cons, List.sum_cons, List.flatMap_cons, List.length_append]
      exact Nat.add_le_add length_le_row ih

/-- Rows of at least one cell each are read back from their text. -/
theorem ofText?_text {rows : List (List String)} (h : ∀ r ∈ rows, r ≠ []) :
    ofText? (text rows) = some rows := by
  have htext : (text rows).toList = (rows.map (·.map String.toList)).flatMap row := by
    rw [text, String.toList_ofList, List.flatMap_map]
  have hback : (rows.map (·.map String.toList)).map (·.map String.ofList) = rows := by
    simp [List.map_map, Function.comp_def]
  have hcells : ∀ r ∈ rows.map (·.map String.toList), r ≠ [] := by
    simpa using h
  rw [ofText?, htext]
  generalize hrows : rows.map (·.map String.toList) = lists at *
  cases lists with
  | nil => rw [← hback]; rfl
  | cons r rest =>
      have hne : (r :: rest).flatMap row ≠ [] := by simp [row_ne_nil]
      have hread := readRows_rows (List.cons_ne_nil r rest) hcells
        (Nat.le_succ_of_le (sum_length_le (r :: rest)))
      split
      · rename_i hnil
        exact absurd hnil hne
      · rw [hread, Option.map_some, hback]

end Rows

example : (ofText? (text [["a", ""], ["say \"no\", or\nyes", ";"]])) =
    some [["a", ""], ["say \"no\", or\nyes", ";"]] := by decide

end Prosopography.Csv
