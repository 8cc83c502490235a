import Prosopography.Pattern

/-!
# Where matches lead

A pattern leads from a position to a property of positions if some match from
there ends at a position that has it. Each kind of pattern has one rule. The main
statement is that trying the matches in order finds an answer exactly if some
match leads to one.
-/

namespace Prosopography

namespace Pattern

/-- A match from this position ends at a position with a property. -/
def Leads (p : Pattern) (f : Cursor → Prop) (c : Cursor) : Prop := ∃ d, p.Spans c d ∧ f d

theorem leads_empty {f : Cursor → Prop} {c : Cursor} : empty.Leads f c ↔ f c := by
  constructor
  · rintro ⟨d, h, hd⟩
    cases h with
    | empty => exact hd
  · exact fun hf => ⟨c, .empty, hf⟩

theorem leads_one {p : Char → Bool} {f : Cursor → Prop} {b s : List Char} {x : Char} :
    (one p).Leads f ⟨b, x :: s⟩ ↔ p x = true ∧ f ⟨x :: b, s⟩ := by
  constructor
  · rintro ⟨d, h, hd⟩
    cases h with
    | one hp => exact ⟨hp, hd⟩
  · rintro ⟨hp, hf⟩
    exact ⟨_, .one hp, hf⟩

theorem not_leads_one {p : Char → Bool} {f : Cursor → Prop} {b : List Char} :
    ¬ (one p).Leads f ⟨b, []⟩ := by
  rintro ⟨d, h, -⟩
  cases h

theorem leads_chars {w b s : List Char} {f : Cursor → Prop} :
    (chars w).Leads f ⟨b, s⟩ ↔
      w.isPrefixOf s = true ∧ f ⟨w.reverse ++ b, s.drop w.length⟩ := by
  rw [List.isPrefixOf_iff_prefix]
  constructor
  · rintro ⟨d, h, hd⟩
    cases h with
    | chars => exact ⟨List.prefix_append .., by simpa using hd⟩
  · rintro ⟨⟨t, rfl⟩, hf⟩
    exact ⟨_, .chars, by simpa using hf⟩

/-- A run leads on from where it stops, here or behind one more character. -/
theorem leads_many {p : Char → Bool} {f : Cursor → Prop} {b s : List Char} {x : Char} :
    (many p).Leads f ⟨b, x :: s⟩ ↔
      (p x = true ∧ (many p).Leads f ⟨x :: b, s⟩) ∨ f ⟨b, x :: s⟩ := by
  constructor
  · rintro ⟨d, h, hd⟩
    cases h with
    | manyStop => exact .inr hd
    | manyStep hp h => exact .inl ⟨hp, d, h, hd⟩
  · rintro (⟨hp, d, h, hd⟩ | hf)
    · exact ⟨d, .manyStep hp h, hd⟩
    · exact ⟨_, .manyStop, hf⟩

theorem leads_many_nil {p : Char → Bool} {f : Cursor → Prop} {b : List Char} :
    (many p).Leads f ⟨b, []⟩ ↔ f ⟨b, []⟩ := by
  constructor
  · rintro ⟨d, h, hd⟩
    cases h with
    | manyStop => exact hd
  · exact fun hf => ⟨_, .manyStop, hf⟩

/-- For what can be reached, it does not matter that a lazy run tries to stop first. -/
theorem leads_few {p : Char → Bool} {f : Cursor → Prop} {b s : List Char} {x : Char} :
    (few p).Leads f ⟨b, x :: s⟩ ↔
      (p x = true ∧ (few p).Leads f ⟨x :: b, s⟩) ∨ f ⟨b, x :: s⟩ := by
  constructor
  · rintro ⟨d, h, hd⟩
    cases h with
    | fewStop => exact .inr hd
    | fewStep hp h => exact .inl ⟨hp, d, h, hd⟩
  · rintro (⟨hp, d, h, hd⟩ | hf)
    · exact ⟨d, .fewStep hp h, hd⟩
    · exact ⟨_, .fewStop, hf⟩

theorem leads_few_nil {p : Char → Bool} {f : Cursor → Prop} {b : List Char} :
    (few p).Leads f ⟨b, []⟩ ↔ f ⟨b, []⟩ := by
  constructor
  · rintro ⟨d, h, hd⟩
    cases h with
    | fewStop => exact hd
  · exact fun hf => ⟨_, .fewStop, hf⟩

/-- What follows the first pattern is led on by the second. -/
theorem leads_seq {a b : Pattern} {f : Cursor → Prop} {c : Cursor} :
    (seq a b).Leads f c ↔ a.Leads (b.Leads f) c := by
  constructor
  · rintro ⟨d, h, hd⟩
    cases h with
    | seq ha hb => exact ⟨_, ha, d, hb, hd⟩
  · rintro ⟨d, ha, e, hb, he⟩
    exact ⟨e, .seq ha hb, he⟩

/-- A choice leads to what one of its sides leads to. -/
theorem leads_alt {a b : Pattern} {f : Cursor → Prop} {c : Cursor} :
    (alt a b).Leads f c ↔ a.Leads f c ∨ b.Leads f c := by
  constructor
  · rintro ⟨d, h, hd⟩
    cases h with
    | altLeft h => exact .inl ⟨d, h, hd⟩
    | altRight h => exact .inr ⟨d, h, hd⟩
  · rintro (⟨d, h, hd⟩ | ⟨d, h, hd⟩)
    · exact ⟨d, .altLeft h, hd⟩
    · exact ⟨d, .altRight h, hd⟩

theorem leads_edge {p : Char → Bool} {f : Cursor → Prop} {c : Cursor} :
    (edge p).Leads f c ↔ isEdge p c = true ∧ f c := by
  constructor
  · rintro ⟨d, h, hd⟩
    cases h with
    | edge hp => exact ⟨hp, hd⟩
  · rintro ⟨hp, hf⟩
    exact ⟨_, .edge hp, hf⟩

/-- A greedy run finds a match exactly if one can be reached behind it. -/
theorem isSome_firstMany {p : Char → Bool} {β : Type} {accept : Cursor → Option β}
    {b s : List Char} :
    (firstMany p accept b s).isSome ↔ (many p).Leads (fun d => (accept d).isSome) ⟨b, s⟩ := by
  induction s generalizing b with
  | nil => rw [leads_many_nil, firstMany]
  | cons x s ih =>
      rw [leads_many, firstMany, ← ih]
      by_cases hp : p x <;> simp [hp]

/-- A lazy run finds a match exactly if one can be reached behind it. -/
theorem isSome_firstFew {p : Char → Bool} {β : Type} {accept : Cursor → Option β}
    {b s : List Char} :
    (firstFew p accept b s).isSome ↔ (few p).Leads (fun d => (accept d).isSome) ⟨b, s⟩ := by
  induction s generalizing b with
  | nil => rw [leads_few_nil, firstFew]
  | cons x s ih =>
      rw [leads_few, firstFew, ← ih]
      by_cases hp : p x <;> simp [hp, or_comm]

/-- A literal is skipped in one step, with the cursor behind all of it. -/
theorem skip?_eq (w : List Char) (c : Cursor) :
    c.skip? w =
      if w.isPrefixOf c.rest then some ⟨w.reverse ++ c.before, c.rest.drop w.length⟩ else none := by
  induction w generalizing c with
  | nil => simp [Cursor.skip?]
  | cons x w ih =>
      obtain ⟨b, s⟩ := c
      cases s with
      | nil => simp [Cursor.skip?]
      | cons y s => by_cases h : x = y <;> simp [Cursor.skip?, h, ih]

/-- An answer is found exactly if some match leads to one. -/
theorem isSome_first (p : Pattern) {β : Type} {accept : Cursor → Option β} {c : Cursor} :
    (p.first accept c).isSome ↔ p.Leads (fun d => (accept d).isSome) c := by
  induction p generalizing accept c with
  | empty => rw [leads_empty, first]
  | one p =>
      obtain ⟨b, s⟩ := c
      cases s with
      | nil => simpa [first] using not_leads_one
      | cons x s =>
          rw [leads_one, first]
          by_cases hp : p x <;> simp [hp]
  | chars w =>
      obtain ⟨b, s⟩ := c
      rw [leads_chars, first, skip?_eq]
      by_cases hw : w.isPrefixOf s <;> simp [hw]
  | many p => exact isSome_firstMany
  | few p => exact isSome_firstFew
  | seq a b iha ihb =>
      rw [leads_seq, first, iha]
      simp only [ihb]
  | alt a b iha ihb => simp [leads_alt, first, iha, ihb]
  | edge p =>
      rw [leads_edge, first]
      by_cases hp : isEdge p c <;> simp [hp]

end Pattern

end Prosopography
