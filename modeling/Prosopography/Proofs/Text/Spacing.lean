import Mathlib.Data.List.Chain
import Mathlib.Data.List.DropRight
import Prosopography.Text.Blank

/-!
# Spacing

A squeezed text has no blank but the space and no two of them next to each other; a
trimmed text has no character of the class at either end. Trimming only leaves
characters out, and so does squeezing where the space is the only blank.
-/

namespace Prosopography.Text

/-- The space is the only blank of a text. -/
def OnlySpaces (s : List Char) : Prop := ∀ c ∈ s, isBlank c = true → c = ' '

theorem OnlySpaces.sublist {s t : List Char} (hs : OnlySpaces s) (h : t.Sublist s) :
    OnlySpaces t :=
  fun c hc => hs c (h.subset hc)

/-- Every blank read as a plain space. -/
def plain (c : Char) : Char := if isBlank c then ' ' else c

/-- No blank follows another one. -/
def Spaced (s : List Char) : Prop := s.IsChain fun a b => isBlank a = true → isBlank b = false

theorem squeeze_cons {c : Char} (s : List Char) (h : ¬ isBlank c = true) :
    squeeze (c :: s) = c :: squeeze s := by
  rw [squeeze.eq_def]
  exact if_neg h

theorem isBlank_space : isBlank ' ' = true := by decide

/-- Squeezing and dropping leading blanks can change places. -/
theorem dropWhile_isBlank_squeeze (s : List Char) :
    (squeeze s).dropWhile isBlank = squeeze (s.dropWhile isBlank) := by
  fun_induction squeeze s with
  | case1 => rfl
  | case2 c hc =>
      rw [List.dropWhile_cons_of_pos isBlank_space, List.dropWhile_cons_of_pos hc]
      rfl
  | case3 c hc d s _ ih => rw [List.dropWhile_cons_of_pos hc, ih]
  | case4 c hc d s hd ih =>
      rw [List.dropWhile_cons_of_pos isBlank_space, List.dropWhile_cons_of_pos hc, ih]
  | case5 c s hc _ =>
      rw [List.dropWhile_cons_of_neg hc, List.dropWhile_cons_of_neg hc, squeeze_cons s hc]

/-- A blank becomes a space, and the blanks after it are left out. -/
theorem squeeze_cons_of_isBlank {c : Char} {s : List Char} (h : isBlank c = true) :
    squeeze (c :: s) = ' ' :: (squeeze s).dropWhile isBlank := by
  induction s generalizing c with
  | nil => simp [squeeze, h]
  | cons d s ih =>
      rw [squeeze.eq_def]
      dsimp only
      rw [if_pos h]
      split
      · rename_i hd
        rw [ih hd, List.dropWhile_cons_of_pos isBlank_space, List.dropWhile_idempotent]
      · rename_i hd
        rw [squeeze_cons s hd, List.dropWhile_cons_of_neg hd]

/-- A run of blanks becomes one space. -/
theorem squeeze_append_of_isBlank {r : List Char} (s : List Char) (hne : r ≠ [])
    (h : ∀ x ∈ r, isBlank x = true) : squeeze (r ++ s) = ' ' :: (squeeze s).dropWhile isBlank := by
  induction r with
  | nil => exact absurd rfl hne
  | cons x r ih =>
      rw [List.cons_append, squeeze_cons_of_isBlank (h x List.mem_cons_self)]
      cases r with
      | nil => rfl
      | cons y r =>
          rw [ih (List.cons_ne_nil y r) fun z hz => h z (List.mem_cons_of_mem x hz),
            List.dropWhile_cons_of_pos isBlank_space, List.dropWhile_idempotent]

theorem head?_squeeze (s : List Char) : (squeeze s).head? = s.head?.map plain := by
  cases s with
  | nil => rfl
  | cons c s =>
      by_cases h : isBlank c = true
      · rw [squeeze_cons_of_isBlank h]
        simp [plain, h]
      · rw [squeeze_cons s h]
        simp [plain, h]

theorem mem_squeeze {s : List Char} {c : Char} (h : c ∈ squeeze s) :
    c = ' ' ∨ (c ∈ s ∧ isBlank c = false) := by
  fun_induction squeeze s with
  | case1 => simp at h
  | case2 => exact .inl (List.mem_singleton.mp h)
  | case3 d _ e s _ ih =>
      exact (ih h).imp_right fun hc => ⟨List.mem_cons_of_mem d hc.1, hc.2⟩
  | case4 d _ e s _ ih =>
      obtain rfl | h := List.mem_cons.mp h
      · exact .inl rfl
      · exact (ih h).imp_right fun hc => ⟨List.mem_cons_of_mem d hc.1, hc.2⟩
  | case5 d s hd ih =>
      obtain rfl | h := List.mem_cons.mp h
      · exact .inr ⟨List.mem_cons_self, Bool.eq_false_iff.mpr hd⟩
      · exact (ih h).imp_right fun hc => ⟨List.mem_cons_of_mem d hc.1, hc.2⟩

/-- A squeezed text has no blanks but spaces. -/
theorem onlySpaces_squeeze (s : List Char) : OnlySpaces (squeeze s) := by
  intro c hc hblank
  obtain hspace | ⟨-, hnot⟩ := mem_squeeze hc
  · exact hspace
  · simp [hnot] at hblank

/-- A squeezed text has no two spaces in a row. -/
theorem spaced_squeeze (s : List Char) : Spaced (squeeze s) := by
  fun_induction squeeze s with
  | case1 => exact .nil
  | case2 => exact .singleton _
  | case3 d _ e s _ ih => exact ih
  | case4 d _ e s he ih =>
      refine List.isChain_cons.mpr ⟨fun y hy _ => ?_, ih⟩
      rw [squeeze_cons s he] at hy
      obtain rfl := Option.some.inj hy
      exact Bool.eq_false_iff.mpr he
  | case5 d s hd ih => exact List.isChain_cons.mpr ⟨fun _ _ hblank => absurd hblank hd, ih⟩

/-- Squeezing leaves out all blanks of a run but one, and makes that one a space. -/
theorem squeeze_sublist_map_plain (s : List Char) : (squeeze s).Sublist (s.map plain) := by
  fun_induction squeeze s with
  | case1 => exact List.Sublist.refl _
  | case2 d hd =>
      rw [List.map_singleton, plain, if_pos hd]
  | case3 d _ e s _ ih => exact ih.trans (List.sublist_cons_self (plain d) _)
  | case4 d hd e s _ ih =>
      rw [List.map_cons, plain, if_pos hd]
      exact ih.cons_cons ' '
  | case5 d s hd ih =>
      rw [List.map_cons, plain, if_neg hd]
      exact ih.cons_cons d

theorem map_plain_eq_self {s : List Char} (h : OnlySpaces s) : s.map plain = s := by
  refine (List.map_congr_left fun c hc => ?_).trans (List.map_id s)
  rw [plain]
  split
  · exact (h c hc ‹_›).symm
  · rfl

theorem squeeze_sublist {s : List Char} (h : OnlySpaces s) : (squeeze s).Sublist s := by
  have hsub := squeeze_sublist_map_plain s
  rwa [map_plain_eq_self h] at hsub

theorem trimEndBy_isPrefix (p : Char → Bool) (s : List Char) : trimEndBy p s <+: s := by
  rw [trimEndBy]
  split
  · rw [← List.reverse_suffix, List.reverse_reverse]
    exact List.dropWhile_suffix p
  · exact List.prefix_rfl

theorem trimBy_sublist (p : Char → Bool) (s : List Char) : (trimBy p s).Sublist s :=
  (trimEndBy_isPrefix p _).sublist.trans (List.dropWhile_suffix p).sublist

theorem exists_eq_trimEndBy_append (p : Char → Bool) (s : List Char) :
    ∃ b, (∀ x ∈ b, p x = true) ∧ s = trimEndBy p s ++ b := by
  rw [trimEndBy]
  split
  · refine ⟨(s.reverse.takeWhile p).reverse, ?_, ?_⟩
    · intro x hx
      exact List.mem_takeWhile_imp (List.mem_reverse.mp hx)
    · rw [← List.reverse_append, List.takeWhile_append_dropWhile, List.reverse_reverse]
  · exact ⟨[], fun x hx => absurd hx List.not_mem_nil, (List.append_nil s).symm⟩

/-- Trimming takes characters of the class from both ends, and no others. -/
theorem exists_eq_append_trimBy_append (p : Char → Bool) (s : List Char) :
    ∃ a b, (∀ x ∈ a, p x = true) ∧ (∀ x ∈ b, p x = true) ∧ s = a ++ trimBy p s ++ b := by
  obtain ⟨b, hb, hrest⟩ := exists_eq_trimEndBy_append p (s.dropWhile p)
  refine ⟨s.takeWhile p, b, fun x hx => List.mem_takeWhile_imp hx, hb, ?_⟩
  rw [List.append_assoc, trimBy, ← hrest, List.takeWhile_append_dropWhile]

theorem head?_trimBy (p : Char → Bool) (s : List Char) : (trimBy p s).head?.any p = false := by
  obtain ⟨t, ht⟩ := trimEndBy_isPrefix p (s.dropWhile p)
  have hhead := List.head?_dropWhile_not p s
  rw [trimBy]
  cases hs : trimEndBy p (s.dropWhile p) with
  | nil => rfl
  | cons c u =>
      rw [← ht, hs] at hhead
      simpa using hhead

theorem getLast?_trimEndBy (p : Char → Bool) (s : List Char) :
    (trimEndBy p s).getLast?.any p = false := by
  rw [trimEndBy]
  split
  · rw [List.getLast?_reverse]
    have hhead := List.head?_dropWhile_not p s.reverse
    cases hs : (s.reverse.dropWhile p).head? with
    | none => rfl
    | some c => simpa [hs] using hhead
  · rename_i h
    exact Bool.eq_false_iff.mpr h

theorem getLast?_trimBy (p : Char → Bool) (s : List Char) :
    (trimBy p s).getLast?.any p = false :=
  getLast?_trimEndBy p _

/-- A text whose ends are not to be trimmed stays as it is. -/
theorem trimBy_of_any_eq_false {p : Char → Bool} {s : List Char} (hhead : s.head?.any p = false)
    (hlast : s.getLast?.any p = false) : trimBy p s = s := by
  have hdrop : s.dropWhile p = s := by
    cases s with
    | nil => rfl
    | cons c s => exact List.dropWhile_cons_of_neg (by simpa using hhead)
  rw [trimBy, hdrop, trimEndBy, hlast, if_neg Bool.false_ne_true]

/-- A trimmed text is left as it is. -/
theorem trimBy_trimBy (p : Char → Bool) (s : List Char) : trimBy p (trimBy p s) = trimBy p s :=
  trimBy_of_any_eq_false (head?_trimBy p s) (getLast?_trimBy p s)

@[simp] theorem trimmed_trimmed (s : String) : trimmed (trimmed s) = trimmed s := by
  simp [trimmed, trim, trimBy_trimBy]

/-- In a spaced text that neither begins nor ends with a blank, each blank stands between two
characters that are not blank. -/
theorem Spaced.neighbours {s before after : List Char} {c : Char} (h : Spaced s)
    (hhead : s.head?.any isBlank = false) (hlast : s.getLast?.any isBlank = false)
    (hs : s = before ++ c :: after) (hc : isBlank c = true) :
    before.getLast?.any (!isBlank ·) = true ∧ after.head?.any (!isBlank ·) = true := by
  subst hs
  obtain ⟨-, hcons, hbefore⟩ := List.isChain_append.mp h
  constructor
  · cases hb : before.getLast? with
    | none =>
        rw [List.getLast?_eq_none_iff.mp hb] at hhead
        simp [hc] at hhead
    | some b =>
        have hcb := mt (hbefore b hb c (by simp))
        simpa [hc] using hcb
  · cases after with
    | nil => simp [hc] at hlast
    | cons a after =>
        have hca := (List.isChain_cons_cons.mp hcons).1 hc
        simp [hca]

end Prosopography.Text
