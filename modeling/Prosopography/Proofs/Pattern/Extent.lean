import Prosopography.Pattern.Leads
import Prosopography.Pattern.Search

/-!
# The extent of matches

A match only moves forward in a text, and a pattern that consumes moves by a
character at least. The characters that a search looks for before it tries any
match are there wherever some match is, and the match it takes is one of those
that the pattern spans.
-/

namespace Prosopography

namespace Pattern

/-- A match passes over the characters between its two ends. -/
theorem Spans.exists_word {p : Pattern} {c d : Cursor} (h : p.Spans c d) :
    ∃ w, c.rest = w ++ d.rest ∧ d.before = w.reverse ++ c.before := by
  induction h with
  | empty | manyStop | fewStop | edge => exact ⟨[], rfl, rfl⟩
  | @one _ x => exact ⟨[x], rfl, rfl⟩
  | @chars w => exact ⟨w, rfl, rfl⟩
  | @manyStep _ x _ _ _ _ _ ih | @fewStep _ x _ _ _ _ _ ih =>
      obtain ⟨w, hrest, hbefore⟩ := ih
      exact ⟨x :: w, congrArg (x :: ·) hrest, by simp [hbefore]⟩
  | seq _ _ iha ihb =>
      obtain ⟨v, hv, hv'⟩ := iha
      obtain ⟨w, hw, hw'⟩ := ihb
      exact ⟨v ++ w, by simp [hv, hw], by simp [hv', hw']⟩
  | altLeft _ ih | altRight _ ih => exact ih

/-- A match leaves an ending of the text. -/
theorem Spans.rest_suffix {p : Pattern} {c d : Cursor} (h : p.Spans c d) : d.rest <:+ c.rest := by
  obtain ⟨w, hrest, -⟩ := h.exists_word
  exact ⟨w, hrest.symm⟩

/-- Whether every match holds a character at least. -/
def consumes : Pattern → Bool
  | one _ => true
  | chars w => !w.isEmpty
  | seq a b => a.consumes || b.consumes
  | alt a b => a.consumes && b.consumes
  | _ => false

/-- A pattern that consumes leaves a shorter text. -/
theorem Spans.length_lt {p : Pattern} {c d : Cursor} (h : p.Spans c d)
    (hp : p.consumes = true) : d.rest.length < c.rest.length := by
  induction h with
  | empty | manyStop | manyStep | fewStop | fewStep | edge => simp [consumes] at hp
  | one => exact Nat.lt_succ_self _
  | @chars w b s =>
      cases w with
      | nil => simp [consumes] at hp
      | cons x w =>
          change s.length < ((x :: w) ++ s).length
          rw [List.length_append, List.length_cons]
          omega
  | seq ha hb iha ihb =>
      -- One of the two parts consumes, and the other does not move backwards.
      obtain hp | hp := Bool.or_eq_true_iff.mp hp
      · exact Nat.lt_of_le_of_lt hb.rest_suffix.length_le (iha hp)
      · exact Nat.lt_of_lt_of_le (ihb hp) ha.rest_suffix.length_le
  | altLeft _ ih => exact ih (Bool.and_eq_true_iff.mp hp).1
  | altRight _ ih => exact ih (Bool.and_eq_true_iff.mp hp).2

theorem occurs_of_suffix {x : Char} {w s t : List Char} (h : (x :: w) ++ s <:+ t) :
    occurs x w t = true := by
  induction t with
  | nil => simp at h
  | cons y t ih =>
      rw [occurs, Bool.or_eq_true]
      obtain heq | h := List.suffix_cons_iff.mp h
      · obtain ⟨rfl, rfl⟩ := List.cons.inj heq
        exact .inl (by simp)
      · exact .inr (ih h)

/-- A text with a match in it holds the characters that a match cannot do without. -/
theorem Spans.mayMatch {p : Pattern} {c d : Cursor} (h : p.Spans c d) {t : List Char}
    (ht : c.rest <:+ t) : p.mayMatch t = true := by
  induction h with
  | empty | manyStop | manyStep | fewStop | fewStep | edge => rfl
  | one hp => exact List.any_eq_true.mpr ⟨_, ht.subset List.mem_cons_self, hp⟩
  | @chars w b s =>
      cases w with
      | nil => rfl
      | cons x w => exact occurs_of_suffix ht
  | seq ha _ iha ihb => exact Bool.and_eq_true_iff.mpr ⟨iha ht, ihb (ha.rest_suffix.trans ht)⟩
  | altLeft _ ih => exact Bool.or_eq_true_iff.mpr (.inl (ih ht))
  | altRight _ ih => exact Bool.or_eq_true_iff.mpr (.inr (ih ht))

/-- A match begins with one of the first characters of its pattern. -/
theorem Spans.head_mem {p : Pattern} {c d : Cursor} (h : p.Spans c d) {cs : List Char}
    (hcs : p.firstChars? = some cs) : ∃ x ∈ c.rest.head?, x ∈ cs := by
  induction h generalizing cs with
  | empty | one | manyStop | manyStep | fewStop | fewStep | edge => simp [firstChars?] at hcs
  | @chars w b s =>
      cases w with
      | nil => simp [firstChars?] at hcs
      | cons x w =>
          obtain rfl := Option.some.inj hcs
          exact ⟨x, rfl, List.mem_singleton_self x⟩
  | @seq a b c d e ha _ iha ihb =>
      -- An edge takes no character, so the match begins with the part after it.
      cases a with
      | edge q =>
          cases ha
          exact ihb hcs
      | _ => exact iha hcs
  | @altLeft a b c d _ ih =>
      obtain ⟨ca, ha, cb, hb, rfl⟩ : ∃ ca, a.firstChars? = some ca ∧
          ∃ cb, b.firstChars? = some cb ∧ ca ++ cb = cs := by
        simpa [firstChars?, Option.bind_eq_some_iff] using hcs
      obtain ⟨x, hx, hmem⟩ := ih ha
      exact ⟨x, hx, List.mem_append_left cb hmem⟩
  | @altRight a b c d _ ih =>
      obtain ⟨ca, ha, cb, hb, rfl⟩ : ∃ ca, a.firstChars? = some ca ∧
          ∃ cb, b.firstChars? = some cb ∧ ca ++ cb = cs := by
        simpa [firstChars?, Option.bind_eq_some_iff] using hcs
      obtain ⟨x, hx, hmem⟩ := ih hb
      exact ⟨x, hx, List.mem_append_right ca hmem⟩

/-- A match begins with one of the first characters of its pattern. -/
theorem Spans.mayBegin {p : Pattern} {b s : List Char} {x : Char} {d : Cursor}
    (h : p.Spans ⟨b, x :: s⟩ d) : mayBegin p.firstChars? x = true := by
  cases hcs : p.firstChars? with
  | none => rfl
  | some cs =>
      obtain ⟨y, hy, hmem⟩ := h.head_mem hcs
      obtain rfl := Option.some.inj hy
      simpa [Pattern.mayBegin] using hmem

theorem leads_of_firstMany {p : Char → Bool} {β : Type} {accept : Cursor → Option β} {r : β}
    {b s : List Char} (h : firstMany p accept b s = some r) :
    (many p).Leads (fun d => accept d = some r) ⟨b, s⟩ := by
  induction s generalizing b with
  | nil => exact leads_many_nil.mpr h
  | cons x s ih =>
      rw [firstMany, Option.orElse_eq_orElse, Option.orElse_eq_or, Option.or_eq_some_iff] at h
      rw [leads_many]
      obtain h | ⟨-, h⟩ := h
      · split at h
        · exact .inl ⟨‹_›, ih h⟩
        · simp at h
      · exact .inr h

theorem leads_of_firstFew {p : Char → Bool} {β : Type} {accept : Cursor → Option β} {r : β}
    {b s : List Char} (h : firstFew p accept b s = some r) :
    (few p).Leads (fun d => accept d = some r) ⟨b, s⟩ := by
  induction s generalizing b with
  | nil => exact leads_few_nil.mpr h
  | cons x s ih =>
      rw [firstFew, Option.orElse_eq_orElse, Option.orElse_eq_or, Option.or_eq_some_iff] at h
      rw [leads_few]
      obtain h | ⟨-, h⟩ := h
      · exact .inr h
      · split at h
        · exact .inl ⟨‹_›, ih h⟩
        · simp at h

/-- The answer found is one to which some match leads. -/
theorem leads_of_first {p : Pattern} {β : Type} {accept : Cursor → Option β} {r : β}
    {c : Cursor} (h : p.first accept c = some r) : p.Leads (fun d => accept d = some r) c := by
  induction p generalizing accept c with
  | empty => exact leads_empty.mpr h
  | one p =>
      obtain ⟨b, s⟩ := c
      cases s with
      | nil => simp [first] at h
      | cons x s =>
          rw [first] at h
          split at h
          · exact leads_one.mpr ⟨‹_›, h⟩
          · simp at h
  | chars w =>
      obtain ⟨b, s⟩ := c
      rw [first, skip?_eq] at h
      split at h
      · exact leads_chars.mpr ⟨‹_›, h⟩
      · simp at h
  | many p => exact leads_of_firstMany h
  | few p => exact leads_of_firstFew h
  | seq a b iha ihb =>
      obtain ⟨d, had, hd⟩ := iha h
      exact leads_seq.mpr ⟨d, had, ihb hd⟩
  | alt a b iha ihb =>
      rw [first, Option.orElse_eq_orElse, Option.orElse_eq_or, Option.or_eq_some_iff] at h
      exact leads_alt.mpr (h.imp iha fun h => ihb h.2)
  | edge p =>
      rw [first] at h
      split at h
      · exact leads_edge.mpr ⟨‹_›, h⟩
      · simp at h

section Map

variable {α β : Type} (f : α → β) (accept : Cursor → Option α)

theorem firstMany_map (q : Char → Bool) (b s : List Char) :
    firstMany q (fun d => (accept d).map f) b s = (firstMany q accept b s).map f := by
  induction s generalizing b with
  | nil => rfl
  | cons x s ih => by_cases hq : q x = true <;> simp [firstMany, hq, ih, Option.map_or]

theorem firstFew_map (q : Char → Bool) (b s : List Char) :
    firstFew q (fun d => (accept d).map f) b s = (firstFew q accept b s).map f := by
  induction s generalizing b with
  | nil => rfl
  | cons x s ih => by_cases hq : q x = true <;> simp [firstFew, hq, ih, Option.map_or]

/-- A search for what is read off the end of a match is a search for that end. -/
theorem first_map (p : Pattern) (c : Cursor) :
    p.first (fun d => (accept d).map f) c = (p.first accept c).map f := by
  induction p generalizing accept c with
  | empty => rfl
  | one q =>
      obtain ⟨b, s⟩ := c
      cases s with
      | nil => rfl
      | cons x s => by_cases hq : q x = true <;> simp [first, hq]
  | chars w => exact Option.map_bind.symm
  | many q => exact firstMany_map f accept q c.before c.rest
  | few q => exact firstFew_map f accept q c.before c.rest
  | seq a b iha ihb => simp only [first, ihb, iha]
  | alt a b iha ihb => simp [first, iha, ihb, Option.map_or]
  | edge q => by_cases hq : isEdge q c = true <;> simp [first, hq]

end Map

/-- The length of a match is what the search has left behind. -/
theorem matchLength?_eq (p : Pattern) (c : Cursor) :
    p.matchLength? c = (p.first some c).map fun d => c.rest.length - d.rest.length :=
  first_map _ some p c

theorem Spans.isSome_matchLength? {p : Pattern} {c d : Cursor} (h : p.Spans c d) :
    (p.matchLength? c).isSome = true :=
  p.isSome_first.mpr ⟨d, h, rfl⟩

/-- A pattern that consumes has no match of length 0. -/
theorem matchLength?_pos {p : Pattern} (hp : p.consumes = true) {c : Cursor} {n : Nat}
    (h : p.matchLength? c = some n) : 0 < n := by
  obtain ⟨d, hd, hn⟩ := leads_of_first h
  have hlt := hd.length_lt hp
  have := Option.some.inj hn
  omega

theorem not_spans_of_matchLength? {p : Pattern} (hp : p.consumes = true) {c d : Cursor}
    (h : ∀ n, p.matchLength? c = some (n + 1) → False) : ¬ p.Spans c d := by
  intro hd
  obtain ⟨n, hn⟩ := Option.isSome_iff_exists.mp hd.isSome_matchLength?
  have hpos := matchLength?_pos hp hn
  exact h (n - 1) (by rw [hn, Nat.sub_add_cancel hpos])

end Pattern

end Prosopography
