import Mathlib.Logic.Function.Iterate
import Prosopography.Proofs.Name.NormalForm

/-!
# The passes towards a key

A pass over a text that a pass has left deletes characters or changes nothing. So passes come to
an end, after no more of them than the first one left characters, and the key holds no character
that was not in the name.
-/

namespace Prosopography.Name

open Text

/-- A pass over a text in letters of either case. -/
def wholePass (s : List Char) : List Char := pass (lowercase s)

/-- What is left after the first pass and so many further ones. -/
def afterPasses (s : List Char) (n : Nat) : List Char := wholePass^[n] (wholePass s)

theorem afterPasses_zero (s : List Char) : afterPasses s 0 = wholePass s :=
  Function.iterate_zero_apply ..

theorem afterPasses_succ (s : List Char) (n : Nat) :
    afterPasses s (n + 1) = wholePass (afterPasses s n) :=
  Function.iterate_succ_apply' ..

/-- A text as passes leave it: letters in lowercase, and spaces for blanks. -/
structure Clean (s : List Char) : Prop where
  onlySpaces : OnlySpaces s
  lower : ∀ c ∈ s, IsLower c

/-- One whole pass leaves a clean text. -/
theorem clean_wholePass (s : List Char) : Clean (wholePass s) where
  onlySpaces := onlySpaces_pass (lowercase s)
  lower c hc := by
    rw [wholePass] at hc
    obtain rfl | hmem := mem_of_mem_pass hc
    · exact isLower_space
    · exact isLower_of_mem_lowercase hmem

/-- A clean text is in lowercase, so that only the pass remains. -/
theorem Clean.wholePass_eq {s : List Char} (h : Clean s) : wholePass s = pass s := by
  rw [wholePass, lowercase_eq_self h.lower]

theorem Clean.sublist {s : List Char} (h : Clean s) : (wholePass s).Sublist s := by
  rw [h.wholePass_eq]
  exact pass_sublist h.onlySpaces

/-- A further pass changes nothing, or it takes a character at least. -/
theorem Clean.eq_or_length_lt {s : List Char} (h : Clean s) :
    wholePass s = s ∨ (wholePass s).length < s.length := by
  by_cases hlen : s.length ≤ (wholePass s).length
  · exact .inl (h.sublist.eq_of_length_le hlen)
  · exact .inr (Nat.lt_of_not_le hlen)

theorem clean_afterPasses (s : List Char) (n : Nat) : Clean (afterPasses s n) := by
  cases n with
  | zero =>
      rw [afterPasses_zero]
      exact clean_wholePass s
  | succ n =>
      rw [afterPasses_succ]
      exact clean_wholePass (afterPasses s n)

/-- Settling goes from pass to pass as long as they take characters. -/
theorem exists_settle_eq_iterate {s : List Char} (hs : Clean s) :
    ∃ n, settle s = wholePass^[n] s ∧ wholePass (settle s) = settle s ∧
      (∀ m < n, wholePass (wholePass^[m] s) ≠ wholePass^[m] s) ∧
      n + (settle s).length ≤ s.length := by
  fun_induction settle s with
  | case1 s t ht ih =>
      -- The pass that has just been made comes before those of the shorter text.
      have ht' : wholePass s = t := hs.wholePass_eq
      obtain ⟨n, heq, hfixed, hchange, hlen⟩ := ih (ht' ▸ clean_wholePass s)
      refine ⟨n + 1, ?_, hfixed, ?_, by omega⟩
      · rw [Function.iterate_succ_apply, ht', heq]
      · intro m hm
        cases m with
        | zero =>
            intro hsame
            rw [Function.iterate_zero_apply, ht'] at hsame
            exact absurd (hsame ▸ ht) (Nat.lt_irrefl _)
        | succ m =>
            rw [Function.iterate_succ_apply, ht']
            exact hchange m (Nat.lt_of_succ_lt_succ hm)
  | case2 s t ht =>
      refine ⟨0, rfl, ?_, fun m hm => absurd hm (Nat.not_lt_zero m), by omega⟩
      exact hs.eq_or_length_lt.resolve_right (hs.wholePass_eq ▸ ht)

/-- The first pass takes characters away from the lowercase with plain blanks. -/
theorem wholePass_sublist_map_plain (s : List Char) :
    (wholePass s).Sublist ((lowercase s).map plain) := by
  rw [wholePass, pass_eq]
  exact (trimBy_sublist isSeparator _).trans
    ((squeeze_sublist_map_plain _).trans ((struck_sublist (lowercase s)).map plain))

/-- The key of a name is what the first pass leaves that changes nothing. -/
structure SettlesTo (s k : List Char) : Prop where
  /-- A pass after the first one deletes characters or changes nothing. -/
  deletes : ∀ n, (afterPasses s (n + 1)).Sublist (afterPasses s n) ∧
    (afterPasses s (n + 1) = afterPasses s n ∨
      (afterPasses s (n + 1)).length < (afterPasses s n).length)
  /-- No more passes change the text than the first one has left characters. -/
  stops : ∃ n ≤ (afterPasses s 0).length, afterPasses s n = k ∧
    afterPasses s (n + 1) = k ∧ ∀ m < n, afterPasses s (m + 1) ≠ afterPasses s m
  /-- No character is put in or moved, if blanks are read as spaces. -/
  keeps : k.Sublist ((lowercase s).map plain)

/-- Passes over a name come to an end at its key, and only take characters away. -/
theorem settlesTo_key (name : String) : SettlesTo name.toList (key name).toList := by
  have hkey : (key name).toList = settle (wholePass name.toList) := by
    rw [key, String.toList_ofList, keyOf, wholePass]
  have hclean := clean_wholePass name.toList
  obtain ⟨n, heq, hfixed, hchange, hlen⟩ := exists_settle_eq_iterate hclean
  rw [hkey]
  constructor
  · intro n
    rw [afterPasses_succ]
    have hn := clean_afterPasses name.toList n
    exact ⟨hn.sublist, hn.eq_or_length_lt⟩
  · have hsettled : afterPasses name.toList n = settle (wholePass name.toList) := heq.symm
    refine ⟨n, ?_, hsettled, ?_, ?_⟩
    · rw [afterPasses_zero]
      exact Nat.le_of_add_right_le hlen
    · rw [afterPasses_succ, hsettled, hfixed]
    · intro m hm
      rw [afterPasses_succ]
      exact hchange m hm
  · exact (settle_sublist hclean.onlySpaces).trans (wholePass_sublist_map_plain name.toList)

end Prosopography.Name
