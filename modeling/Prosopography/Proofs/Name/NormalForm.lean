import Prosopography.Name.Key
import Prosopography.Proofs.Name.Clause
import Prosopography.Proofs.Text.Lowercase
import Prosopography.Proofs.Text.Spacing

/-!
# The normal form of keys

A key is in normal form: none of the steps that make a key changes it, no clause
occurs in it, and each of its blanks is a single space inside the text. The main
statement says so for the key of every name. After the first pass the space is the
only blank, and from then on every step only leaves characters out. So a pass that
changes nothing as a whole changes nothing at any step.
-/

namespace Prosopography.Name

open Text

/-- What holds of a key. -/
structure NormalForm (k : List Char) : Prop where
  lowercase : lowercase k = k
  strike : ∀ c : Clause, c.strike k = k
  squeeze : squeeze k = k
  trim : trimBy isSeparator k = k
  no_clause : ∀ c : Clause, ¬ c.OccursIn k
  single_spaces : ∀ before c after, k = before ++ c :: after → isBlank c = true →
    c = ' ' ∧ before.getLast?.any (!isBlank ·) = true ∧ after.head?.any (!isBlank ·) = true
  head : k.head?.any isSeparator = false
  last : k.getLast?.any isSeparator = false

/-- The text between the clauses and the spacing of a pass. -/
def struck (s : List Char) : List Char := Clause.inOrder.foldl (fun s c => c.strike s) s

theorem pass_eq (s : List Char) : pass s = trimBy isSeparator (squeeze (struck s)) := rfl

theorem struck_sublist (s : List Char) : (struck s).Sublist s := Clause.foldl_strike_sublist _ s

theorem onlySpaces_pass (s : List Char) : OnlySpaces (pass s) :=
  (onlySpaces_squeeze (struck s)).sublist (trimBy_sublist isSeparator _)

/-- A pass brings in nothing but spaces. -/
theorem mem_of_mem_pass {s : List Char} {c : Char} (h : c ∈ pass s) : c = ' ' ∨ c ∈ s := by
  obtain hspace | ⟨hmem, -⟩ := mem_squeeze ((trimBy_sublist isSeparator _).subset h)
  · exact .inl hspace
  · exact .inr ((struck_sublist s).subset hmem)

theorem squeeze_struck_sublist {s : List Char} (h : OnlySpaces s) :
    (squeeze (struck s)).Sublist (struck s) :=
  squeeze_sublist (h.sublist (struck_sublist s))

/-- A pass over a text without other blanks only takes characters away. -/
theorem pass_sublist {s : List Char} (h : OnlySpaces s) : (pass s).Sublist s :=
  (trimBy_sublist isSeparator _).trans ((squeeze_struck_sublist h).trans (struck_sublist s))

/-- A pass that changes nothing changes nothing at any of its three stages. -/
theorem stages_of_pass {s : List Char} (hs : OnlySpaces s) (h : pass s = s) :
    struck s = s ∧ squeeze s = s ∧ trimBy isSeparator s = s := by
  have htrim : (pass s).length ≤ (squeeze (struck s)).length :=
    (trimBy_sublist isSeparator _).length_le
  have hsqueeze := (squeeze_struck_sublist hs).length_le
  have hstruck : struck s = s := by
    rw [h] at htrim
    exact (struck_sublist s).eq_of_length_le (htrim.trans hsqueeze)
  have hsqueezed : squeeze s = s := by
    rw [h, hstruck] at htrim
    exact (squeeze_sublist hs).eq_of_length_le htrim
  rw [pass_eq, hstruck, hsqueezed] at h
  exact ⟨hstruck, hsqueezed, h⟩

theorem any_isBlank_of_any_isSeparator {o : Option Char} (h : o.any isSeparator = false) :
    o.any isBlank = false := by
  cases o with
  | none => rfl
  | some c => simp_all [isSeparator]

/-- A text that a pass leaves as it is is in normal form. -/
theorem normalForm_of_pass {s : List Char} (hs : OnlySpaces s) (hlower : ∀ c ∈ s, IsLower c)
    (h : pass s = s) : NormalForm s := by
  obtain ⟨hstruck, hsqueeze, htrim⟩ := stages_of_pass hs h
  have hstrike (c : Clause) : c.strike s = s :=
    Clause.foldl_strike_eq_self_iff.mp hstruck c c.mem_inOrder
  have hhead : s.head?.any isSeparator = false := htrim ▸ head?_trimBy isSeparator s
  have hlast : s.getLast?.any isSeparator = false := htrim ▸ getLast?_trimBy isSeparator s
  have hspaced : Spaced s := hsqueeze ▸ spaced_squeeze s
  exact {
    lowercase := lowercase_eq_self hlower
    strike := hstrike
    squeeze := hsqueeze
    trim := htrim
    no_clause := fun c => Clause.not_occursIn_of_strike (hstrike c)
    single_spaces := fun before c after heq hc =>
      ⟨hs c (by simp [heq]) hc, hspaced.neighbours (any_isBlank_of_any_isSeparator hhead)
        (any_isBlank_of_any_isSeparator hlast) heq hc⟩
    head := hhead
    last := hlast }

theorem settle_sublist {s : List Char} (hs : OnlySpaces s) : (settle s).Sublist s := by
  fun_induction settle s with
  | case1 s t ht ih => exact (ih (onlySpaces_pass s)).trans (pass_sublist hs)
  | case2 s => exact List.Sublist.refl s

/-- Passes are repeated until one changes nothing. -/
theorem pass_settle {s : List Char} (hs : OnlySpaces s) : pass (settle s) = settle s := by
  fun_induction settle s with
  | case1 s t ht ih => exact ih (onlySpaces_pass s)
  | case2 s t ht => exact (pass_sublist hs).eq_of_length_le (Nat.le_of_not_lt ht)

/-- Whatever the name, its key is in normal form. -/
theorem normalForm_keyOf (s : List Char) : NormalForm (keyOf s) := by
  have hspaces : OnlySpaces (pass (lowercase s)) := onlySpaces_pass _
  refine normalForm_of_pass (hspaces.sublist (settle_sublist hspaces)) (fun c hc => ?_)
    (pass_settle hspaces)
  obtain rfl | hmem := mem_of_mem_pass ((settle_sublist hspaces).subset hc)
  · exact isLower_space
  · exact isLower_of_mem_lowercase hmem

/-- A text in normal form is its own key. -/
theorem NormalForm.keyOf_eq {k : List Char} (h : NormalForm k) : keyOf k = k := by
  have hstruck : struck k = k := Clause.foldl_strike_eq_self_iff.mpr fun c _ => h.strike c
  have hpass : pass k = k := by
    rw [pass_eq, hstruck, h.squeeze, h.trim]
  rw [keyOf, h.lowercase, hpass, settle, if_neg (by rw [hpass]; exact Nat.lt_irrefl _)]

theorem normalForm_toList_key (name : String) : NormalForm (key name).toList := by
  rw [key, String.toList_ofList]
  exact normalForm_keyOf name.toList

/-- The names that are their own keys are those in normal form. -/
theorem key_eq_self_iff {name : String} : key name = name ↔ NormalForm name.toList := by
  constructor
  · intro h
    exact h ▸ normalForm_toList_key name
  · intro h
    rw [key, h.keyOf_eq, String.ofList_toList]

/-- The key of every name is in normal form and so its own key, and no name that is not in normal
form is its own key. -/
theorem normalForm_key (name : String) :
    NormalForm (key name).toList ∧ key (key name) = key name ∧
      (key name = name ↔ NormalForm name.toList) :=
  ⟨normalForm_toList_key name, key_eq_self_iff.mpr (normalForm_toList_key name),
    key_eq_self_iff⟩

-- Only once the first pass has struck `case 12,` does `b 3;` stand at the start.
example : key "Case 12, B 3; Jean  Petit" = "jean petit" := by decide +kernel

end Prosopography.Name
