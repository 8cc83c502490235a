import Prosopography.Pattern.Ending
import Prosopography.Pattern.Leads

/-!
# Marked positions

A list of marks stands for a property of positions. The main statement is that
the marks computed backwards stand for the positions from which some match of the
pattern leads to a marked one.
-/

namespace Prosopography

namespace Marks

open Pattern

/-- `k` marks the positions with property `f` between `before` and `rest` and at all earlier
positions. -/
def Marked (f : Cursor → Prop) : List Char → List Char → Marks → Prop
  | [], rest, k => k.headD false = true ↔ f ⟨[], rest⟩
  | x :: before, rest, k =>
    (k.headD false = true ↔ f ⟨x :: before, rest⟩) ∧ Marked f before (x :: rest) k.tail

theorem Marked.head {f : Cursor → Prop} {before rest : List Char} {k : Marks}
    (h : Marked f before rest k) : k.headD false = true ↔ f ⟨before, rest⟩ := by
  cases before with
  | nil => exact h
  | cons x before => exact h.1

/-- Marks only depend on where a condition holds. -/
theorem Marked.congr {f g : Cursor → Prop} {before rest : List Char} {k : Marks}
    (h : Marked f before rest k) (hfg : ∀ c, g c ↔ f c) : Marked g before rest k := by
  induction before generalizing rest k with
  | nil => exact h.head.trans (hfg _).symm
  | cons x before ih => exact ⟨h.head.trans (hfg _).symm, ih h.2⟩

/-- The marks after `i` positions backwards. -/
theorem marked_iff {f : Cursor → Prop} {before rest : List Char} {k : Marks} :
    Marked f before rest k ↔ ∀ i ≤ before.length,
      (k.getD i false = true ↔ f ⟨before.drop i, (before.take i).reverse ++ rest⟩) := by
  induction before generalizing rest k with
  | nil => cases k <;> simp [Marked]
  | cons x before ih =>
      rw [Marked, ih]
      constructor
      · rintro ⟨h₀, h⟩ i hi
        cases i with
        | zero => cases k <;> simpa using h₀
        | succ i =>
            have := h i (by simpa using hi)
            cases k <;> simpa using this
      · intro h
        refine ⟨?_, fun i hi => ?_⟩
        · have := h 0 (by simp)
          cases k <;> simpa using this
        · have := h (i + 1) (by simpa using hi)
          cases k <;> simpa using this

theorem headD_passedOne (p : Char → Bool) (x : Char) (before : List Char) (k : Marks) :
    (passedOne p (x :: before) k).headD false = (k.headD false && p x) := by
  cases k <;> rfl

theorem tail_passedOne (p : Char → Bool) (x : Char) (before : List Char) (k : Marks) :
    (passedOne p (x :: before) k).tail = passedOne p before k.tail := by
  cases k with
  | nil => cases before <;> rfl
  | cons m k => rfl

/-- Marks are carried over one character. -/
theorem marked_passedOne {p : Char → Bool} {f : Cursor → Prop} {x : Char}
    {before rest : List Char} {k : Marks} (h : Marked f (x :: before) rest k) :
    Marked ((Pattern.one p).Leads f) before (x :: rest) (passedOne p (x :: before) k) := by
  induction before generalizing x rest k with
  | nil => rw [Marked, headD_passedOne, leads_one, Bool.and_eq_true, h.head, and_comm]
  | cons y before ih =>
      refine ⟨by rw [headD_passedOne, leads_one, Bool.and_eq_true, h.head, and_comm], ?_⟩
      rw [tail_passedOne]
      exact ih h.2

theorem getD_passed (w before : List Char) (k : Marks) (i : Nat) :
    (passed w before k).getD i false = (k.getD i false && w.isPrefixOf (before.drop i)) := by
  induction k generalizing before i with
  | nil => simp [passed]
  | cons m k ih =>
      cases i with
      | zero => simp [passed]
      | succ i => rw [passed, List.getD_cons_succ, ih, List.getD_cons_succ, List.drop_tail]

/-- The characters just before a position, read backwards, and those before them. -/
theorem reverse_take {before : List Char} {n i : Nat} (hn : n ≤ i) :
    (before.take i).reverse =
      ((before.drop (i - n)).take n).reverse ++ (before.take (i - n)).reverse := by
  rw [← List.reverse_append, ← List.take_add]
  congr 2
  omega

theorem isPrefixOf_reverse_take {w before : List Char} {i : Nat} (hw : w.length ≤ i)
    (hi : i ≤ before.length) :
    w.isPrefixOf (before.take i).reverse =
      w.reverse.isPrefixOf (before.drop (i - w.length)) := by
  have hlen : ((before.drop (i - w.length)).take w.length).length = w.length := by
    simp; omega
  rw [Bool.eq_iff_iff, List.isPrefixOf_iff_prefix, List.isPrefixOf_iff_prefix,
    reverse_take hw, List.prefix_iff_eq_take, List.prefix_iff_eq_take, List.length_reverse,
    List.take_append_of_le_length (by simp [hlen]), List.take_of_length_le (by simp [hlen]),
    List.reverse_eq_iff]

/-- Marks are carried over a literal. -/
theorem marked_passed {w : List Char} {f : Cursor → Prop} {before : List Char} {k : Marks}
    (h : Marked f before [] k) :
    Marked ((Pattern.chars w).Leads f) before []
      (List.replicate w.length false ++ passed w.reverse before k) := by
  rw [marked_iff] at h ⊢
  intro i hi
  simp only [List.append_nil] at h ⊢
  rw [leads_chars, List.getD_eq_getElem?_getD]
  by_cases hw : w.length ≤ i
  · rw [List.getElem?_append_right (by simpa using hw), List.length_replicate,
      ← List.getD_eq_getElem?_getD, getD_passed, Bool.and_eq_true, h _ (by omega), and_comm,
      ← isPrefixOf_reverse_take hw hi]
    refine and_congr_right fun hp => ?_
    rw [isPrefixOf_reverse_take hw hi] at hp
    obtain ⟨t, ht⟩ := List.isPrefixOf_iff_prefix.1 hp
    have hdrop : before.drop i = t := by
      have := congrArg (List.drop w.length) ht
      rw [List.drop_drop, List.drop_left' (by simp)] at this
      rw [this]
      congr 1
      omega
    have hrest : (before.take i).reverse.drop w.length =
        (before.take (i - w.length)).reverse := by
      rw [reverse_take hw, List.drop_left' (by simp; omega)]
    rw [hrest, hdrop, ht]
  · have hp : ¬ w.isPrefixOf (before.take i).reverse = true := by
      intro hp
      have := (List.isPrefixOf_iff_prefix.1 hp).length_le
      simp at this
      omega
    rw [List.getElem?_append_left (by simp; omega)]
    simp [hp, Nat.lt_of_not_le hw]

theorem getD_eq_false_of_any {k : Marks} (h : k.any id = false) (i : Nat) :
    k.getD i false = false := by
  rw [List.getD_eq_getElem?_getD]
  cases hk : k[i]? with
  | none => rfl
  | some m =>
      have hm := List.any_eq_false.1 h m (List.mem_of_getElem? hk)
      simpa using hm

/-- Marks may be dropped as long as none of them is set. -/
theorem marked_orNone {f : Cursor → Prop} {before rest : List Char} {k : Marks}
    (h : Marked f before rest k) : Marked f before rest (orNone k) := by
  rw [orNone]
  split
  · exact h
  · rename_i hk
    rw [marked_iff] at h ⊢
    intro i hi
    have hi' : k.getD i false = false := getD_eq_false_of_any (by simpa using hk) i
    rw [← h i hi, hi']
    simp

theorem headD_runs (p : Char → Bool) (further : Bool) (before : List Char) (k : Marks) :
    (runs p further before k).headD false = (further || k.headD false) := by
  cases further <;> cases before <;> cases k <;> simp [runs]

theorem tail_runs (p : Char → Bool) (further : Bool) (x : Char) (before : List Char) (k : Marks) :
    (runs p further (x :: before) k).tail =
      runs p ((further || k.headD false) && p x) before k.tail := by
  cases further <;> cases k <;> simp [runs]

/-- Marks are carried over a run of any kind: `g` is the condition that the run continues or gives
way to `f`. -/
theorem marked_runs {p : Char → Bool} {f g : Cursor → Prop}
    (hg : ∀ b x s, g ⟨b, x :: s⟩ ↔ (p x = true ∧ g ⟨x :: b, s⟩) ∨ f ⟨b, x :: s⟩)
    {further : Bool} {before rest : List Char} {k : Marks}
    (h : Marked f before rest k)
    (h₀ : g ⟨before, rest⟩ ↔ further = true ∨ f ⟨before, rest⟩) :
    Marked g before rest (runs p further before k) := by
  have hhead : (runs p further before k).headD false = true ↔ g ⟨before, rest⟩ := by
    rw [headD_runs, Bool.or_eq_true, h.head, h₀]
  induction before generalizing further rest k with
  | nil => exact hhead
  | cons x before ih =>
      refine ⟨hhead, ?_⟩
      rw [tail_runs]
      have h₁ : g ⟨before, x :: rest⟩ ↔
          ((further || k.headD false) && p x) = true ∨ f ⟨before, x :: rest⟩ := by
        rw [hg, h₀, Bool.and_eq_true, Bool.or_eq_true, h.head, and_comm]
      exact ih h.2 h₁ (by rw [headD_runs, Bool.or_eq_true, h.2.head, h₁])

theorem headD_atEdges (p : Char → Bool) (after : Bool) (before : List Char) (k : Marks) :
    (atEdges p after before k).headD false =
      (k.headD false && before.head?.any p != after) := by
  cases before <;> cases k <;> simp [atEdges]

theorem tail_atEdges (p : Char → Bool) (after : Bool) (x : Char) (before : List Char)
    (k : Marks) :
    (atEdges p after (x :: before) k).tail = atEdges p (p x) before k.tail := by
  cases k <;> cases before <;> simp [atEdges]

/-- Marks are kept at the edges of words and dropped elsewhere. -/
theorem marked_atEdges {p : Char → Bool} {f : Cursor → Prop} {before rest : List Char}
    {k : Marks} (h : Marked f before rest k) :
    Marked ((Pattern.edge p).Leads f) before rest (atEdges p (rest.head?.any p) before k) := by
  have hhead : (atEdges p (rest.head?.any p) before k).headD false = true ↔
      (Pattern.edge p).Leads f ⟨before, rest⟩ := by
    rw [headD_atEdges, leads_edge, Bool.and_eq_true, h.head, and_comm]
    rfl
  induction before generalizing rest k with
  | nil => exact hhead
  | cons x before ih =>
      refine ⟨hhead, ?_⟩
      rw [tail_atEdges]
      refine ih h.2 ?_
      rw [headD_atEdges, leads_edge, Bool.and_eq_true, h.2.head, and_comm]
      rfl

theorem headD_union (k k' : Marks) :
    (union k k').headD false = (k.headD false || k'.headD false) := by
  cases k with
  | nil => simp [union]
  | cons m k => cases k' <;> simp [union]

theorem tail_union (k k' : Marks) : (union k k').tail = union k.tail k'.tail := by
  cases k with
  | nil => simp [union]
  | cons m k =>
      cases k' with
      | nil => cases k <;> simp [union]
      | cons n k' => simp [union]

/-- Marks of two conditions together are marks of either. -/
theorem marked_union {f g : Cursor → Prop} {before rest : List Char} {k k' : Marks}
    (h : Marked f before rest k) (h' : Marked g before rest k') :
    Marked (fun c => f c ∨ g c) before rest (union k k') := by
  induction before generalizing rest k k' with
  | nil => rw [Marked, headD_union, Bool.or_eq_true, h.head, h'.head]
  | cons x before ih =>
      refine ⟨by rw [headD_union, Bool.or_eq_true, h.head, h'.head], ?_⟩
      rw [tail_union]
      exact ih h.2 h'.2

end Marks

namespace Pattern

open Marks

/-- The marks computed backwards are at the positions from which a match leads to a mark. -/
theorem marked_reach (p : Pattern) {f : Cursor → Prop} {before : List Char} {k : Marks}
    (h : Marked f before [] k) : Marked (p.Leads f) before [] (p.reach before k) := by
  induction p generalizing f k with
  | empty => exact h.congr fun _ => leads_empty
  | one p =>
      cases before with
      | nil => simpa [Marked, reach] using not_leads_one
      | cons x before => exact ⟨by simpa [reach] using not_leads_one, marked_passedOne h⟩
  | chars w => exact marked_orNone (marked_passed h)
  | many p => exact marked_runs (fun _ _ _ => leads_many) h (by simp [leads_many_nil])
  | few p => exact marked_runs (fun _ _ _ => leads_few) h (by simp [leads_few_nil])
  | seq a b iha ihb => exact (iha (ihb h)).congr fun _ => leads_seq
  | alt a b iha ihb => exact (marked_union (iha h) (ihb h)).congr fun _ => leads_alt
  | edge p => exact marked_atEdges h

end Pattern

end Prosopography
