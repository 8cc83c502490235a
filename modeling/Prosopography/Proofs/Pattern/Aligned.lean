import Prosopography.Pattern.Leads
import Prosopography.Proofs.Text.Spacing

/-!
# Positions in texts of other spacing

Two positions are aligned if squeezing makes the texts before them the same, and the lines after
them. From aligned positions both texts go on in the same way: they end, or they have the same
character, or each has a run of blanks, and the positions after it are aligned again.
-/

namespace Prosopography

open Text

namespace Cursor

/-- The texts before two positions and the lines after them differ in spacing only. -/
structure Aligned (c c' : Cursor) : Prop where
  before : squeeze c.before = squeeze c'.before
  rest : squeeze c.rest = squeeze c'.rest
  line : '\n' ∉ c.rest
  line' : '\n' ∉ c'.rest

namespace Aligned

/-- How the texts go on from two positions up to aligned ones. -/
inductive Onward : Cursor → Cursor → Prop
  | stop {b b'} : Onward ⟨b, []⟩ ⟨b', []⟩
  | char {b s b' s' x} : isBlank x = false → Aligned ⟨x :: b, s⟩ ⟨x :: b', s'⟩ →
      Onward ⟨b, x :: s⟩ ⟨b', x :: s'⟩
  | run {b w s b' w' s' x x'} : (∀ y ∈ x :: w, isBlank y = true) →
      (∀ y ∈ x' :: w', isBlank y = true) →
      Aligned ⟨w.reverse ++ x :: b, s⟩ ⟨w'.reverse ++ x' :: b', s'⟩ →
      Onward ⟨b, x :: w ++ s⟩ ⟨b', x' :: w' ++ s'⟩

variable {c c' : Cursor}

theorem ofText {s t : List Char} (h : squeeze s = squeeze t) (hs : '\n' ∉ s) (ht : '\n' ∉ t) :
    Aligned (.ofText s) (.ofText t) :=
  ⟨rfl, h, hs, ht⟩

theorem squeeze_eq {s t : List Char} (h : Aligned (.ofText s) (.ofText t)) :
    squeeze s = squeeze t :=
  h.rest

theorem isBlank_plain (x : Char) : isBlank (plain x) = isBlank x := by
  by_cases hx : isBlank x = true
  · rw [plain, if_pos hx, hx, isBlank_space]
  · rw [plain, if_neg hx]

/-- Texts that squeezing makes the same begin with the same character, or with blanks. -/
theorem exists_of_squeeze_cons {x : Char} {s t : List Char}
    (h : squeeze (x :: s) = squeeze t) : ∃ x' t', t = x' :: t' ∧ plain x = plain x' := by
  have hhead := congrArg List.head? h
  rw [head?_squeeze, head?_squeeze] at hhead
  cases t with
  | nil => simp at hhead
  | cons x' t' => exact ⟨x', t', rfl, by simpa using hhead⟩

/-- Aligned cursors stay aligned behind a character that is no blank. -/
theorem char {b s b' s' : List Char} {x : Char} (h : Aligned ⟨b, x :: s⟩ ⟨b', x :: s'⟩)
    (hx : ¬ isBlank x = true) : Aligned ⟨x :: b, s⟩ ⟨x :: b', s'⟩ where
  before := by rw [squeeze_cons b hx, squeeze_cons b' hx, h.before]
  rest := by
    have hrest := h.rest
    rw [squeeze_cons s hx, squeeze_cons s' hx] at hrest
    exact (List.cons.inj hrest).2
  line := fun hmem => h.line (List.mem_cons_of_mem x hmem)
  line' := fun hmem => h.line' (List.mem_cons_of_mem x hmem)

theorem forall_mem_takeWhile {x : Char} (hx : isBlank x = true) (s : List Char) :
    ∀ y ∈ x :: s.takeWhile isBlank, isBlank y = true :=
  List.forall_mem_cons.mpr ⟨hx, fun _ => List.mem_takeWhile_imp⟩

theorem squeeze_reverse_append {x : Char} {w : List Char} (b : List Char)
    (h : ∀ y ∈ x :: w, isBlank y = true) :
    squeeze (w.reverse ++ x :: b) = ' ' :: (squeeze b).dropWhile isBlank := by
  have hrun : ∀ y ∈ w.reverse ++ [x], isBlank y = true := by simpa [or_comm] using h
  simpa using squeeze_append_of_isBlank b (by simp) hrun

/-- The positions after the runs of blanks at aligned positions are aligned. -/
theorem run {b s b' s' : List Char} {x x' : Char} (h : Aligned ⟨b, x :: s⟩ ⟨b', x' :: s'⟩)
    (hx : isBlank x = true) (hx' : isBlank x' = true) :
    Aligned ⟨(s.takeWhile isBlank).reverse ++ x :: b, s.dropWhile isBlank⟩
      ⟨(s'.takeWhile isBlank).reverse ++ x' :: b', s'.dropWhile isBlank⟩ where
  before := by
    rw [squeeze_reverse_append b (forall_mem_takeWhile hx s),
      squeeze_reverse_append b' (forall_mem_takeWhile hx' s'), h.before]
  rest := by
    have hrest := h.rest
    rw [squeeze_cons_of_isBlank hx, squeeze_cons_of_isBlank hx'] at hrest
    rw [← dropWhile_isBlank_squeeze, ← dropWhile_isBlank_squeeze]
    exact (List.cons.inj hrest).2
  line := fun hmem => h.line (List.mem_cons_of_mem x ((List.dropWhile_suffix _).subset hmem))
  line' := fun hmem => h.line' (List.mem_cons_of_mem x' ((List.dropWhile_suffix _).subset hmem))

/-- Aligned cursors go on in step, over a character or over a run of blanks. -/
theorem onward (h : Aligned c c') : Onward c c' := by
  obtain ⟨b, rest⟩ := c
  obtain ⟨b', rest'⟩ := c'
  cases rest with
  | nil =>
      cases rest' with
      | nil => exact .stop
      | cons x' s' =>
          obtain ⟨x, s, hnil, -⟩ := exists_of_squeeze_cons h.rest.symm
          cases hnil
  | cons x s =>
      obtain ⟨x', s', rfl, hplain⟩ := exists_of_squeeze_cons h.rest
      have hblank : isBlank x = isBlank x' := by
        rw [← isBlank_plain x, hplain, isBlank_plain]
      by_cases hx : isBlank x = true
      · have hx' : isBlank x' = true := hblank ▸ hx
        have hrun := Onward.run (forall_mem_takeWhile hx s) (forall_mem_takeWhile hx' s')
          (h.run hx hx')
        rwa [List.cons_append, List.takeWhile_append_dropWhile, List.cons_append,
          List.takeWhile_append_dropWhile] at hrun
      · have hx' : ¬ isBlank x' = true := hblank ▸ hx
        rw [plain, plain, if_neg hx, if_neg hx'] at hplain
        subst hplain
        exact .char (Bool.eq_false_iff.mpr hx) (h.char hx)

end Aligned

end Cursor

end Prosopography
