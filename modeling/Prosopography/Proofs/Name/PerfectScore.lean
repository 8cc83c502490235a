import Prosopography.Proofs.Name.Similarity
import Prosopography.Proofs.Text.Spacing
import Prosopography.Proofs.Text.Words
import Mathlib.Algebra.Order.Field.Basic
import Mathlib.Algebra.Order.Field.Rat

/-!
# Perfect scores

A score of 100 is kept for texts that agree. Two texts as they are have it only if they are the
same, for no common subsequence is longer than either text. Two sets of words have it only if one
holds the other: different lists of words give different texts when they are joined, so none of
the texts that are compared for two other sets is the same as another.
-/

namespace Prosopography.Similarity

open Text

section Ratio

variable (a b : List Char)

theorem commonLength_le_left : commonLength a b ≤ a.length := by
  obtain ⟨s, hsa, -, hs⟩ := commonLength_mem a b
  exact hs ▸ hsa.length_le

theorem commonLength_le_right : commonLength a b ≤ b.length :=
  commonLength_comm a b ▸ commonLength_le_left b a

theorem commonLength_self : commonLength a a = a.length :=
  Nat.le_antisymm (commonLength_le_left a a) (le_commonLength ⟨a, .refl a, .refl a, rfl⟩)

variable {a b}

/-- Only a text itself is as long as what it has in common with another. -/
theorem eq_of_commonLength (ha : commonLength a b = a.length) (hb : commonLength a b = b.length) :
    a = b := by
  obtain ⟨s, hsa, hsb, hs⟩ := commonLength_mem a b
  rw [← hsa.eq_of_length (hs.trans ha), ← hsb.eq_of_length (hs.trans hb)]

variable (a b)

/-- The ratio is twice the common length out of both lengths, in percent. -/
theorem ratio_eq_div (h : a.length + b.length ≠ 0) :
    ratio a b = 200 * (commonLength a b : Rat) / ((a.length + b.length : Nat) : Rat) := by
  rw [ratio, if_neg h, Rat.mkRat_eq_div]
  push_cast
  rfl

/-- A ratio is a percentage. -/
theorem ratio_mem_range : 0 ≤ ratio a b ∧ ratio a b ≤ 100 := by
  by_cases h : a.length + b.length = 0
  · rw [ratio, if_pos h]
    decide
  · have hpos : (0 : Rat) < ((a.length + b.length : Nat) : Rat) :=
      Nat.cast_pos.mpr (Nat.pos_of_ne_zero h)
    have hle : 200 * commonLength a b ≤ 100 * (a.length + b.length) := by
      have := commonLength_le_left a b
      have := commonLength_le_right a b
      omega
    rw [ratio_eq_div a b h]
    constructor
    · exact div_nonneg (mul_nonneg (by decide) (Nat.cast_nonneg _)) hpos.le
    · rw [div_le_iff₀ hpos]
      exact_mod_cast hle

/-- Only equal texts have the ratio 100. -/
theorem ratio_eq_hundred_iff : ratio a b = 100 ↔ a = b := by
  by_cases h : a.length + b.length = 0
  · obtain ⟨ha, hb⟩ := Nat.add_eq_zero_iff.mp h
    rw [ratio, if_pos h, List.length_eq_zero_iff.mp ha, List.length_eq_zero_iff.mp hb]
    simp
  · have hne : ((a.length + b.length : Nat) : Rat) ≠ 0 := Nat.cast_ne_zero.mpr h
    have hleft := commonLength_le_left a b
    have hright := commonLength_le_right a b
    calc
      ratio a b = 100 ↔ 200 * commonLength a b = 100 * (a.length + b.length) := by
        rw [ratio_eq_div a b h, div_eq_iff hne]
        exact_mod_cast Iff.rfl
      _ ↔ a = b := by
        constructor
        · intro heq
          exact eq_of_commonLength (by omega) (by omega)
        · rintro rfl
          rw [commonLength_self]
          omega

end Ratio

section Joined

/-- No word has a space in it. -/
def Spaceless (ws : List String) : Prop := ∀ w ∈ ws, ' ' ∉ w.toList

variable {u v : List String}

theorem Spaceless.append (hu : Spaceless u) (hv : Spaceless v) : Spaceless (u ++ v) :=
  fun w hw => (List.mem_append.mp hw).elim (hu w) (hv w)

/-- Words without spaces come back from the text that joins them. -/
theorem splitOn_joined (hu : Spaceless u) (hne : u ≠ []) :
    (joined u).splitOn ' ' = u.map String.toList := by
  rw [joined, String.toList_intercalate]
  exact List.splitOn_intercalate ' ' (by simpa [Spaceless] using hu) (by simpa using hne)

/-- Words without spaces are read off the text that they make when they are joined. -/
theorem joined_injective (hu : Spaceless u) (hv : Spaceless v) (hune : u ≠ []) (hvne : v ≠ [])
    (h : joined u = joined v) : u = v := by
  apply List.map_injective_iff.mpr (fun _ _ => String.toList_inj.mp)
  rw [← splitOn_joined hu hune, ← splitOn_joined hv hvne, h]

end Joined

section WordSets

/-- The words that two texts share. -/
def common (a b : List Char) : List String := (wordSet a).toList.filter (wordSet b).contains

/-- The words of a text that another one lacks. -/
def own (a b : List Char) : List String := (wordSet a).toList.filter (!(wordSet b).contains ·)

/-- The score, told by the shared words and those of either text alone. -/
theorem wordSetRatio_eq (a b : List Char) :
    wordSetRatio a b =
      if (wordSet a).isEmpty || (wordSet b).isEmpty then 0
      else if !(common a b).isEmpty && ((own a b).isEmpty || (own b a).isEmpty) then 100
      else if (common a b).isEmpty then
        ratio (joined (common a b ++ own a b)) (joined (common a b ++ own b a))
      else
        greatest (ratio (joined (common a b ++ own a b)) (joined (common a b ++ own b a)))
          [ratio (joined (common a b)) (joined (common a b ++ own a b)),
            ratio (joined (common a b)) (joined (common a b ++ own b a))] :=
  rfl

variable {a b : List Char} {x : String}

theorem mem_wordSet : x ∈ (wordSet a).toList ↔ x.toList ∈ wordsIn a := by
  rw [wordSet, SortedSet.mem_ofList, List.mem_map, ← mem_words_iff]
  constructor
  · rintro ⟨w, hw, rfl⟩
    rwa [String.toList_ofList]
  · intro hx
    exact ⟨x.toList, hx, String.ofList_toList⟩

theorem isEmpty_wordSet_iff : (wordSet a).isEmpty = true ↔ ¬ (wordsIn a).Nonempty := by
  rw [SortedSet.isEmpty, List.isEmpty_iff, List.eq_nil_iff_forall_not_mem]
  constructor
  · rintro h ⟨w, hw⟩
    exact h (String.ofList w) (mem_wordSet.mpr (by rwa [String.toList_ofList]))
  · intro h x hx
    exact h ⟨x.toList, mem_wordSet.mp hx⟩

theorem spaceless_wordSet : Spaceless (wordSet a).toList := by
  intro x hx hspace
  have hblank := isBlank_of_mem_words (mem_words_iff.mpr (mem_wordSet.mp hx)) ' ' hspace
  simp [isBlank_space] at hblank

theorem spaceless_common : Spaceless (common a b) :=
  fun x hx => spaceless_wordSet x (List.mem_of_mem_filter hx)

theorem spaceless_own : Spaceless (own a b) :=
  fun x hx => spaceless_wordSet x (List.mem_of_mem_filter hx)

theorem mem_own : x ∈ own a b ↔ x ∈ (wordSet a).toList ∧ x ∉ (wordSet b).toList := by
  simp [own, ← Bool.not_eq_true]

/-- A text has no word of its own exactly if its words are among those of the other. -/
theorem own_eq_nil_iff : own a b = [] ↔ wordsIn a ⊆ wordsIn b := by
  rw [List.eq_nil_iff_forall_not_mem]
  constructor
  · intro h w hw
    have hx := h (String.ofList w)
    simpa [mem_own, mem_wordSet, hw] using hx
  · intro h x hx
    obtain ⟨hxa, hxb⟩ := mem_own.mp hx
    exact hxb (mem_wordSet.mpr (h (mem_wordSet.mp hxa)))

/-- Where the words of one text are among those of the other, both share these words. -/
theorem common_ne_nil (ha : (wordsIn a).Nonempty) (hb : (wordsIn b).Nonempty)
    (h : wordsIn a ⊆ wordsIn b ∨ wordsIn b ⊆ wordsIn a) : common a b ≠ [] := by
  obtain ⟨w, hwa, hwb⟩ : (wordsIn a ∩ wordsIn b).Nonempty := by
    rcases h with h | h
    · rwa [Set.inter_eq_left.mpr h]
    · rwa [Set.inter_eq_right.mpr h]
  apply List.ne_nil_of_mem (a := String.ofList w)
  simpa [common, mem_wordSet] using ⟨hwa, hwb⟩

/-- Without words on one side the ratio of the sets is 0. -/
theorem wordSetRatio_of_no_word (h : ¬ (wordsIn a).Nonempty ∨ ¬ (wordsIn b).Nonempty) :
    wordSetRatio a b = 0 := by
  rw [wordSetRatio_eq, if_pos]
  rwa [Bool.or_eq_true, isEmpty_wordSet_iff, isEmpty_wordSet_iff]

/-- If the words of one side are among those of the other, the ratio of the sets is 100. -/
theorem wordSetRatio_of_subset (ha : (wordsIn a).Nonempty) (hb : (wordsIn b).Nonempty)
    (h : wordsIn a ⊆ wordsIn b ∨ wordsIn b ⊆ wordsIn a) : wordSetRatio a b = 100 := by
  have hcommon := common_ne_nil ha hb h
  rw [wordSetRatio_eq, if_neg, if_pos]
  · simpa [hcommon, own_eq_nil_iff] using h
  · simp [isEmpty_wordSet_iff, ha, hb]

/-- The two sides differ, for no word of either text alone is one of the other's. -/
theorem joined_sides_ne (hleft : own a b ≠ []) (hright : own b a ≠ []) :
    joined (common a b ++ own a b) ≠ joined (common a b ++ own b a) := by
  intro h
  have hown : own a b = own b a := by
    apply List.append_cancel_left
    exact joined_injective (spaceless_common.append spaceless_own)
      (spaceless_common.append spaceless_own) (by simp [hleft]) (by simp [hright]) h
  obtain ⟨x, hx⟩ := List.exists_mem_of_ne_nil _ hleft
  exact (mem_own.mp hx).2 (mem_own.mp (hown ▸ hx)).1

/-- The shared words are fewer than those of either side. -/
theorem joined_ne_append (hu : Spaceless u) (hv : Spaceless v) (hune : u ≠ []) (hvne : v ≠ []) :
    joined u ≠ joined (u ++ v) := by
  intro h
  have huv := joined_injective hu (hu.append hv) hune (by simp [hune]) h
  exact hvne (List.self_eq_append_right.mp huv)

theorem greatest_mem (first : Rat) (rest : List Rat) : greatest first rest ∈ first :: rest := by
  rw [greatest_eq_foldl_max]
  induction rest generalizing first with
  | nil => exact List.mem_singleton_self first
  | cons s rest ih =>
      rw [List.foldl_cons]
      rcases List.mem_cons.mp (ih (max first s)) with h | h
      · rw [h]
        rcases max_choice first s with hmax | hmax
        · rw [hmax]
          exact List.mem_cons_self
        · rw [hmax]
          exact List.mem_cons_of_mem first List.mem_cons_self
      · exact List.mem_cons_of_mem first (List.mem_cons_of_mem s h)

/-- Where either text has a word that the other one lacks, all texts that are compared differ. -/
theorem exists_wordSetRatio_eq_ratio (hab : ¬ wordsIn a ⊆ wordsIn b)
    (hba : ¬ wordsIn b ⊆ wordsIn a) : ∃ s t, s ≠ t ∧ wordSetRatio a b = ratio s t := by
  have hleft : own a b ≠ [] := mt own_eq_nil_iff.mp hab
  have hright : own b a ≠ [] := mt own_eq_nil_iff.mp hba
  have hsides := joined_sides_ne hleft hright
  have hwords : ¬ ((wordSet a).isEmpty || (wordSet b).isEmpty) = true := by
    obtain ⟨w, hw, -⟩ := Set.not_subset.mp hab
    obtain ⟨v, hv, -⟩ := Set.not_subset.mp hba
    simp only [Bool.or_eq_true, isEmpty_wordSet_iff, not_or, not_not]
    exact ⟨⟨w, hw⟩, v, hv⟩
  rw [wordSetRatio_eq, if_neg hwords, if_neg (by simp [hleft, hright])]
  split
  · exact ⟨_, _, hsides, rfl⟩
  · rename_i hcommon
    have hcommon : common a b ≠ [] := by simpa using hcommon
    rcases List.mem_cons.mp (greatest_mem _ _) with h | h
    · exact ⟨_, _, hsides, h⟩
    · rcases List.mem_pair.mp h with h | h
      · exact ⟨_, _, joined_ne_append spaceless_common spaceless_own hcommon hleft, h⟩
      · exact ⟨_, _, joined_ne_append spaceless_common spaceless_own hcommon hright, h⟩

end WordSets

/-- The score of two sets of words is 0, is 100, or is that of two different texts. -/
theorem wordSetRatio_cases (a b : List Char) :
    (¬ (wordsIn a).Nonempty ∨ ¬ (wordsIn b).Nonempty) ∧ wordSetRatio a b = 0 ∨
      ((wordsIn a).Nonempty ∧ (wordsIn b).Nonempty ∧
        (wordsIn a ⊆ wordsIn b ∨ wordsIn b ⊆ wordsIn a)) ∧ wordSetRatio a b = 100 ∨
      ¬ (wordsIn a ⊆ wordsIn b ∨ wordsIn b ⊆ wordsIn a) ∧
        ∃ s t, s ≠ t ∧ wordSetRatio a b = ratio s t := by
  by_cases hwords : (wordsIn a).Nonempty ∧ (wordsIn b).Nonempty
  · by_cases h : wordsIn a ⊆ wordsIn b ∨ wordsIn b ⊆ wordsIn a
    · exact .inr (.inl ⟨⟨hwords.1, hwords.2, h⟩, wordSetRatio_of_subset hwords.1 hwords.2 h⟩)
    · obtain ⟨hab, hba⟩ := not_or.mp h
      exact .inr (.inr ⟨h, exists_wordSetRatio_eq_ratio hab hba⟩)
  · have hno := not_and_or.mp hwords
    exact .inl ⟨hno, wordSetRatio_of_no_word hno⟩

/-- Scores lie between 0 and 100, and are 100 only for the same text or, with sets of words, where
one of two sets that are not empty holds the other. -/
theorem perfect_iff (a b : List Char) :
    (0 ≤ ratio a b ∧ ratio a b ≤ 100) ∧ (0 ≤ wordSetRatio a b ∧ wordSetRatio a b ≤ 100) ∧
      (ratio a b = 100 ↔ a = b) ∧
      (wordSetRatio a b = 100 ↔ (wordsIn a).Nonempty ∧ (wordsIn b).Nonempty ∧
        (wordsIn a ⊆ wordsIn b ∨ wordsIn b ⊆ wordsIn a)) := by
  refine ⟨ratio_mem_range a b, ?_, ratio_eq_hundred_iff a b, ?_⟩
  · rcases wordSetRatio_cases a b with ⟨-, h⟩ | ⟨-, h⟩ | ⟨-, s, t, -, h⟩
    · rw [h]
      decide
    · rw [h]
      decide
    · exact h ▸ ratio_mem_range s t
  · rcases wordSetRatio_cases a b with ⟨hno, h⟩ | ⟨hyes, h⟩ | ⟨hno, s, t, hst, h⟩
    · rw [h]
      exact iff_of_false (by decide) fun hyes => hno.elim (· hyes.1) (· hyes.2.1)
    · exact iff_of_true h hyes
    · rw [h, ratio_eq_hundred_iff]
      exact iff_of_false hst fun hyes => hno hyes.2.2

end Prosopography.Similarity
