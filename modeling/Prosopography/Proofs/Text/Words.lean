import Prosopography.Text.Blank
import Mathlib.Data.List.TakeWhile
import Mathlib.Data.Set.Operations

/-!
# Words of a text

A word is a stretch of a text without blanks that cannot be made longer: what stands before it
ends in a blank and what stands behind it begins with one, where anything stands there at all.
Cutting a text at its blanks finds these stretches and no others.
-/

namespace Prosopography.Text

/-- A stretch between two blanks, or between a blank and an end of the text. -/
def IsPiece (s w : List Char) : Prop :=
  ∃ before after, s = before ++ w ++ after ∧ (∀ c ∈ w, isBlank c = false) ∧
    before.getLast?.all isBlank = true ∧ after.head?.all isBlank = true

/-- The words that stand in a text. -/
def wordsIn (s : List Char) : Set (List Char) := {w | w ≠ [] ∧ IsPiece s w}

variable {s w rest : List Char} {c : Char}

/-- The first piece goes as far as there is no blank, and the others come behind that blank. -/
theorem pieces_eq (s : List Char) :
    pieces s = s.takeWhile (!isBlank ·) ::
      match s.dropWhile (!isBlank ·) with
      | [] => []
      | _ :: rest => pieces rest := by
  induction s with
  | nil => rfl
  | cons c s ih =>
      rw [pieces]
      by_cases hc : isBlank c = true
      · simp [hc]
      · simp only [hc, Bool.false_eq_true, if_false, ih, Bool.not_false, List.takeWhile_cons_of_pos,
          List.dropWhile_cons_of_pos]

theorem isBlank_of_dropWhile (h : s.dropWhile (!isBlank ·) = c :: rest) : isBlank c = true := by
  have hhead := List.head?_dropWhile_not (!isBlank ·) s
  simpa [h] using hhead

/-- Behind a blank it makes no difference what stands before it. -/
theorem all_getLast?_append_cons (before rest : List Char) (hc : isBlank c = true) :
    (before ++ c :: rest).getLast?.all isBlank = rest.getLast?.all isBlank := by
  cases rest with
  | nil => simp [hc]
  | cons d rest => simp [List.getLast?_append, List.getLast?_cons]

/-- The text up to its first blank is a piece. -/
theorem isPiece_takeWhile (s : List Char) : IsPiece s (s.takeWhile (!isBlank ·)) := by
  refine ⟨[], s.dropWhile (!isBlank ·), ?_, ?_, rfl, ?_⟩
  · rw [List.nil_append, List.takeWhile_append_dropWhile]
  · intro c hc
    simpa using List.mem_takeWhile_imp hc
  · cases hdrop : s.dropWhile (!isBlank ·) with
    | nil => rfl
    | cons c rest => simpa using isBlank_of_dropWhile hdrop

theorem IsPiece.of_dropWhile (h : IsPiece rest w) (hdrop : s.dropWhile (!isBlank ·) = c :: rest) :
    IsPiece s w := by
  obtain ⟨before, after, rfl, hw, hbefore, hafter⟩ := h
  refine ⟨s.takeWhile (!isBlank ·) ++ c :: before, after, ?_, hw, ?_, hafter⟩
  · calc
      s = s.takeWhile (!isBlank ·) ++ s.dropWhile (!isBlank ·) :=
        List.takeWhile_append_dropWhile.symm
      _ = s.takeWhile (!isBlank ·) ++ c :: before ++ w ++ after := by
        rw [hdrop]
        simp
  · rwa [all_getLast?_append_cons _ _ (isBlank_of_dropWhile hdrop)]

/-- A piece is the first one or stands behind the first blank. -/
theorem IsPiece.eq_takeWhile_or (h : IsPiece s w) :
    w = s.takeWhile (!isBlank ·) ∨
      ∃ c rest, s.dropWhile (!isBlank ·) = c :: rest ∧ IsPiece rest w := by
  obtain ⟨before, after, rfl, hw, hbefore, hafter⟩ := h
  have hsplit := List.takeWhile_append_dropWhile (p := (!isBlank ·)) (l := before)
  cases hdrop : before.dropWhile (!isBlank ·) with
  | nil =>
      -- What stands before has no blank, so it does not end in one: nothing stands there.
      rw [hdrop, List.append_nil] at hsplit
      have hnil : before = [] := by
        rw [← List.getLast?_eq_none_iff, Option.eq_none_iff_forall_ne_some]
        intro c hc
        have hyes : isBlank c = true := by simpa [hc] using hbefore
        have hno : isBlank c = false := by
          rw [← hsplit] at hc
          simpa using List.mem_takeWhile_imp (List.mem_of_getLast? hc)
        simp [hyes] at hno
      subst hnil
      left
      rw [List.nil_append, List.takeWhile_append_of_pos (by simpa using hw)]
      cases after with
      | nil => simp
      | cons c after => rw [List.takeWhile_cons_of_neg (by simpa using hafter), List.append_nil]
  | cons c rest =>
      rw [hdrop] at hsplit
      rw [← hsplit, all_getLast?_append_cons _ _ (isBlank_of_dropWhile hdrop)] at hbefore
      refine .inr ⟨c, rest ++ w ++ after, ?_, rest, after, rfl, hw, hbefore, hafter⟩
      rw [List.append_assoc, List.dropWhile_append, hdrop]
      simp

/-- The pieces of a text are what stands between its blanks. -/
theorem mem_pieces_iff : w ∈ pieces s ↔ IsPiece s w := by
  induction hn : s.length using Nat.strong_induction_on generalizing s with
  | _ n ih =>
      have hlater : ∀ {c : Char} {rest : List Char}, s.dropWhile (!isBlank ·) = c :: rest →
          (w ∈ pieces rest ↔ IsPiece rest w) := by
        intro c rest hdrop
        have hle := (List.dropWhile_suffix (!isBlank ·) (l := s)).length_le
        rw [hdrop, List.length_cons] at hle
        exact ih rest.length (by omega) rfl
      rw [pieces_eq, List.mem_cons]
      constructor
      · rintro (rfl | h)
        · exact isPiece_takeWhile s
        · cases hdrop : s.dropWhile (!isBlank ·) with
          | nil => simp [hdrop] at h
          | cons c rest =>
              rw [hdrop] at h
              exact ((hlater hdrop).mp h).of_dropWhile hdrop
      · intro h
        refine h.eq_takeWhile_or.imp_right ?_
        rintro ⟨c, rest, hdrop, h⟩
        rw [hdrop]
        exact (hlater hdrop).mpr h

/-- The words that a text is cut into are those that stand in it. -/
theorem mem_words_iff : w ∈ words s ↔ w ∈ wordsIn s := by
  rw [words, List.mem_filter, mem_pieces_iff, and_comm]
  simp [wordsIn]

theorem isBlank_of_mem_words (h : w ∈ words s) : ∀ c ∈ w, isBlank c = false := by
  obtain ⟨-, _, _, -, hw, -⟩ := mem_words_iff.mp h
  exact hw

example : words " Jean  Petit".toList = ["Jean".toList, "Petit".toList] := by decide

end Prosopography.Text
