import Prosopography.Proofs.Pattern.Erasure

/-!
# The leftmost match

A search tries the positions of a text from left to right. What it finds is therefore a match, and
no match begins before it; where it finds nothing, no match begins anywhere.
-/

namespace Prosopography.Pattern

variable {p : Pattern} {s w : List Char}

theorem spans_of_matchLength? {c : Cursor} {n : Nat} (h : p.matchLength? c = some n) :
    p.Spans c (c.past n) :=
  spans_of_first (first_eq_some_past h)

theorem not_spans_of_matchLength?_eq_none {c d : Cursor} (h : p.matchLength? c = none) :
    ¬ p.Spans c d := by
  intro hd
  have hsome := hd.isSome_matchLength?
  rw [h] at hsome
  exact Bool.false_ne_true hsome

/-- The search from some position on finds the first match that begins there or later. -/
theorem exists_of_findFrom {before : List Char} (h : p.findFrom before s = some w) :
    ∃ u rest n, s = u ++ rest ∧ p.Spans ⟨u.reverse ++ before, rest⟩
        (Cursor.past ⟨u.reverse ++ before, rest⟩ n) ∧ rest.take n = w ∧
      ∀ v rest' d, s = v ++ rest' → p.Spans ⟨v.reverse ++ before, rest'⟩ d →
        u.length ≤ v.length := by
  fun_induction findFrom p before s with
  | case1 before =>
      obtain ⟨n, hn, rfl⟩ := Option.map_eq_some_iff.mp h
      exact ⟨[], [], n, rfl, spans_of_matchLength? hn, List.take_nil,
        fun _ _ _ _ _ => Nat.zero_le _⟩
  | case2 before x s n hn =>
      obtain rfl := Option.some.inj h
      exact ⟨[], x :: s, n, rfl, spans_of_matchLength? hn, rfl, fun _ _ _ _ _ => Nat.zero_le _⟩
  | case3 before x s hnone ih =>
      obtain ⟨u, rest, n, hs, hspans, hw, hleft⟩ := ih h
      refine ⟨x :: u, rest, n, congrArg (x :: ·) hs, by simpa using hspans, hw, ?_⟩
      intro v rest' d hv hd
      obtain ⟨rfl, rfl⟩ | ⟨v, rfl, hv'⟩ := List.cons_eq_append_iff.mp hv
      · exact absurd hd (not_spans_of_matchLength?_eq_none hnone)
      · exact Nat.succ_le_succ (hleft v rest' d hv' (by simpa using hd))

/-- Where nothing is found, no match begins anywhere. -/
theorem not_spans_of_findFrom {before : List Char} (h : p.findFrom before s = none)
    {u rest : List Char} (hs : s = u ++ rest) (d : Cursor) :
    ¬ p.Spans ⟨u.reverse ++ before, rest⟩ d := by
  fun_induction findFrom p before s generalizing u with
  | case1 before =>
      obtain ⟨rfl, rfl⟩ := List.append_eq_nil_iff.mp hs.symm
      exact not_spans_of_matchLength?_eq_none (Option.map_eq_none_iff.mp h)
  | case2 => cases h
  | case3 before x s hnone ih =>
      obtain ⟨rfl, rfl⟩ | ⟨u, rfl, hs'⟩ := List.cons_eq_append_iff.mp hs
      · exact not_spans_of_matchLength?_eq_none hnone
      · simpa using ih h hs'

/-- What is found in a text is a match, and none begins before it. -/
theorem exists_leftmost_of_find? (h : p.find? s = some w) :
    ∃ (c : Cursor) (n : Nat), c.text = s ∧ p.Spans c (c.past n) ∧ c.rest.take n = w ∧
      ∀ d e : Cursor, d.text = s → p.Spans d e → c.before.length ≤ d.before.length := by
  rw [find?, Option.ite_none_right_eq_some] at h
  obtain ⟨u, rest, n, rfl, hspans, hw, hleft⟩ := exists_of_findFrom h.2
  refine ⟨⟨u.reverse, rest⟩, n, by simp [Cursor.text], by simpa using hspans, hw, ?_⟩
  intro d e hd he
  simpa using hleft d.before.reverse d.rest e hd.symm (by simpa using he)

/-- Where there is a match, something is found. -/
theorem not_spans_of_find? (h : p.find? s = none) {c : Cursor} (hc : c.text = s) (d : Cursor) :
    ¬ p.Spans c d := by
  intro hspans
  have hmay : p.mayMatch s = true := hspans.mayMatch ⟨c.before.reverse, hc⟩
  rw [find?, if_pos hmay] at h
  exact not_spans_of_findFrom h hc.symm d (by simpa using hspans)

end Prosopography.Pattern
