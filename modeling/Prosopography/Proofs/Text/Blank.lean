import Prosopography.Proofs.Text.Spacing
import Prosopography.Text.Digit
import Prosopography.Text.Letter
import Prosopography.Text.WordChar

/-!
# Classes of characters and blanks

No blank is a digit, a letter or a character of a word, so spacing parts what these classes take
together. To take all blanks is the other extreme. The line feed is left out of it, for a class
that takes whatever stands on one line takes every blank but this one.
-/

namespace Prosopography.Text

/-- No blank is in a class. -/
def LacksBlanks (p : Char → Bool) : Prop := ∀ x, isBlank x = true → p x = false

/-- Every blank that may stand within a line is in a class. -/
def HoldsBlanks (p : Char → Bool) : Prop := ∀ x, isBlank x = true → x ≠ '\n' → p x = true

/-- Whether ranges lack blanks is decided by going through the blanks. -/
theorem lacksBlanks_of_all {ranges : CodePoints}
    (h : (blanks.all fun r =>
      (List.range' r.1 (r.2 + 1 - r.1)).all (!ranges.contains ·)) = true) :
    LacksBlanks fun c => ranges.contains c.toNat := by
  intro x hx
  obtain ⟨r, hr, hlow, hhigh⟩ := CodePoints.exists_of_contains hx
  have hrange := List.all_eq_true.mp (List.all_eq_true.mp h r hr) x.toNat
    (List.mem_range'_1.mpr ⟨hlow, by omega⟩)
  simpa using hrange

theorem lacksBlanks_isDigit : LacksBlanks isDigit := lacksBlanks_of_all (by decide +kernel)

theorem lacksBlanks_isLetter : LacksBlanks isLetter := lacksBlanks_of_all (by decide +kernel)

theorem lacksBlanks_isWordChar : LacksBlanks isWordChar := lacksBlanks_of_all (by decide +kernel)

theorem lacksBlanks_beq {a : Char} (ha : isBlank a = false) : LacksBlanks (· == a) := by
  intro x hx
  rw [beq_eq_false_iff_ne]
  rintro rfl
  rw [hx] at ha
  cases ha

theorem LacksBlanks.or {p q : Char → Bool} (hp : LacksBlanks p) (hq : LacksBlanks q) :
    LacksBlanks fun c => p c || q c :=
  fun x hx => Bool.or_eq_false_iff.mpr ⟨hp x hx, hq x hx⟩

theorem holdsBlanks_isBlank : HoldsBlanks isBlank := fun _ hx _ => hx

theorem holdsBlanks_line : HoldsBlanks (· != '\n') := fun _ _ hne => bne_iff_ne.mpr hne

/-- A class without blanks cannot tell which blank a character is. -/
theorem LacksBlanks.any_map_plain {p : Char → Bool} (hp : LacksBlanks p) (o : Option Char) :
    (o.map plain).any p = o.any p := by
  cases o with
  | none => rfl
  | some x =>
      by_cases hx : isBlank x = true
      · simp [plain, hx, hp x hx, hp ' ' isBlank_space]
      · simp [plain, hx]

end Prosopography.Text
