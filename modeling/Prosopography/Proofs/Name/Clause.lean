import Prosopography.Name.Clause
import Prosopography.Proofs.Pattern.Removal

/-!
# Occurrences of clauses

A clause occurs in a text if its pattern matches where the clause is struck. Striking
a clause only leaves characters out, and a clause whose striking changes nothing does
not occur.
-/

namespace Prosopography.Name.Clause

open Pattern

/-- A match of the clause begins and ends at places where it is struck. -/
def OccursIn (c : Clause) (s : List Char) : Prop :=
  ∃ start stop : Cursor, start.text = s ∧ c.pattern.Spans start stop ∧
    match c.site with
    | .anywhere => True
    | .atStart => start.before = []
    | .atEnd => stop.rest = []

/-- No clause matches the empty text. -/
theorem consumes_pattern (c : Clause) : c.pattern.consumes = true := by
  cases c <;> rfl

theorem strike_sublist (c : Clause) (s : List Char) : (c.strike s).Sublist s := by
  rw [strike]
  cases c.site with
  | anywhere => exact removeAll_sublist c.pattern s
  | atStart => exact removeAtStart_sublist c.pattern s
  | atEnd => exact removeAtEnd_sublist c.pattern s

/-- A clause that strikes nothing does not occur. -/
theorem not_occursIn_of_strike {c : Clause} {s : List Char} (h : c.strike s = s) :
    ¬ c.OccursIn s := by
  rintro ⟨start, stop, htext, hspans, hsite⟩
  rw [strike] at h
  cases hc : c.site with
  | anywhere =>
      rw [hc] at h
      exact not_spans_of_removeAll c.consumes_pattern h htext hspans
  | atStart =>
      rw [hc] at h hsite
      obtain rfl : start = .ofText s := by
        obtain ⟨before, rest⟩ := start
        obtain rfl : before = [] := hsite
        exact congrArg (Cursor.mk []) htext
      exact not_spans_of_removeAtStart c.consumes_pattern h hspans
  | atEnd =>
      rw [hc] at h hsite
      exact not_spans_of_removeAtEnd c.consumes_pattern h htext hsite hspans

theorem foldl_strike_sublist (cs : List Clause) (s : List Char) :
    (cs.foldl (fun s c => c.strike s) s).Sublist s := by
  induction cs generalizing s with
  | nil => exact List.Sublist.refl s
  | cons c cs ih => exact (ih (c.strike s)).trans (c.strike_sublist s)

/-- What one clause takes away no other one brings back, so striking several clauses changes
nothing exactly if striking each of them changes nothing. -/
theorem foldl_strike_eq_self_iff {cs : List Clause} {s : List Char} :
    cs.foldl (fun s c => c.strike s) s = s ↔ ∀ c ∈ cs, c.strike s = s := by
  induction cs with
  | nil => simp
  | cons c cs ih =>
      rw [List.foldl_cons, List.forall_mem_cons]
      constructor
      · intro h
        have hc : c.strike s = s := by
          have hle := (foldl_strike_sublist cs (c.strike s)).length_le
          rw [h] at hle
          exact (c.strike_sublist s).eq_of_length_le hle
        rw [hc] at h
        exact ⟨hc, ih.mp h⟩
      · rintro ⟨hc, hcs⟩
        rw [hc]
        exact ih.mpr hcs

end Prosopography.Name.Clause
