import Prosopography.Pattern.Marking
import Prosopography.Proofs.Pattern.Extent

/-!
# Removing matches

Removing matches only leaves characters out. A pattern that consumes and whose
removal changes nothing has no match in the text: none anywhere, none at the start,
or none that reaches the end.
-/

namespace Prosopography

namespace Marks

theorem exists_lastFrom_of_le {k : Marks} {m i : Nat} (h : m ≤ i) :
    ∃ n, lastFrom (some m) i k = some n ∧ m ≤ n := by
  induction k generalizing m i with
  | nil => exact ⟨m, rfl, Nat.le_refl m⟩
  | cons b k ih =>
      cases b with
      | false => exact ih (Nat.le_succ_of_le h)
      | true =>
          obtain ⟨n, hn, hle⟩ := ih (Nat.le_succ i)
          exact ⟨n, hn, Nat.le_trans h hle⟩

/-- The place found is no earlier than any marked one. -/
theorem exists_lastFrom (found : Option Nat) (i : Nat) {k : Marks} {j : Nat}
    (h : k.getD j false = true) : ∃ n, lastFrom found i k = some n ∧ i + j ≤ n := by
  induction k generalizing found i j with
  | nil => simp at h
  | cons b k ih =>
      cases j with
      | zero =>
          obtain rfl : b = true := h
          exact exists_lastFrom_of_le (Nat.le_succ i)
      | succ j =>
          obtain ⟨n, hn, hle⟩ := ih (if b then some i else found) (i + 1) h
          exact ⟨n, hn, by omega⟩

/-- The end of a text is the only marked position to begin with. -/
theorem marked_end (s : List Char) :
    Marked (fun c => c.rest = []) s.reverse [] [true] := by
  refine marked_iff.mpr fun i hi => ?_
  cases i with
  | zero => simp
  | succ i =>
      cases hs : s.reverse with
      | nil => simp [hs] at hi
      | cons x t => simp

end Marks

namespace Pattern

variable {p : Pattern}

theorem removeFrom_sublist (p : Pattern) (heads : Option (List Char)) (skip : Nat)
    (before s : List Char) : (p.removeFrom heads skip before s).Sublist s := by
  fun_induction removeFrom p heads skip before s with
  | case1 => exact List.Sublist.refl _
  | case2 _ _ x s ih => exact ih.trans (List.sublist_cons_self x s)
  | case3 _ x s _ _ _ ih => exact ih.trans (List.sublist_cons_self x s)
  | case4 _ x s _ _ ih => exact ih.cons_cons x
  | case5 _ x s _ ih => exact ih.cons_cons x

/-- A removal only takes characters away. -/
theorem removeAll_sublist (p : Pattern) (s : List Char) : (p.removeAll s).Sublist s := by
  rw [removeAll]
  split
  · exact removeFrom_sublist ..
  · exact List.Sublist.refl s

theorem removeAtStart_sublist (p : Pattern) (s : List Char) : (p.removeAtStart s).Sublist s := by
  rw [removeAtStart]
  split
  · exact List.drop_sublist ..
  · exact List.Sublist.refl s

theorem removeAtEnd_sublist (p : Pattern) (s : List Char) : (p.removeAtEnd s).Sublist s := by
  rw [removeAtEnd]
  split
  · exact List.take_sublist ..
  · exact List.Sublist.refl s

/-- Where nothing is removed, no match begins with the first character, and nothing is removed
after it. -/
theorem not_spans_and_removeFrom (hp : p.consumes = true) {before s : List Char} {x : Char}
    (h : p.removeFrom p.firstChars? 0 before (x :: s) = x :: s) :
    (∀ d, ¬ p.Spans ⟨before, x :: s⟩ d) ∧
      p.removeFrom p.firstChars? 0 (x :: before) s = s := by
  rw [removeFrom] at h
  split at h
  · split at h
    · rename_i n hn
      have hlen := (removeFrom_sublist p p.firstChars? n (x :: before) s).length_le
      rw [h, List.length_cons] at hlen
      exact absurd hlen (Nat.not_succ_le_self _)
    · rename_i hnone
      exact ⟨fun _ => not_spans_of_matchLength? hp hnone, (List.cons.inj h).2⟩
  · rename_i hbegin
    exact ⟨fun d hd => hbegin hd.mayBegin, (List.cons.inj h).2⟩

theorem not_spans_of_removeFrom (hp : p.consumes = true) {before s u rest : List Char}
    (h : p.removeFrom p.firstChars? 0 before s = s) (hs : s = u ++ rest) (d : Cursor) :
    ¬ p.Spans ⟨u.reverse ++ before, rest⟩ d := by
  induction s generalizing before u with
  | nil =>
      obtain ⟨rfl, rfl⟩ := List.append_eq_nil_iff.mp hs.symm
      exact fun hd => Nat.not_lt_zero _ (hd.length_lt hp)
  | cons x s ih =>
      obtain ⟨hhere, hlater⟩ := not_spans_and_removeFrom hp h
      obtain ⟨rfl, rfl⟩ | ⟨u', rfl, rfl⟩ := List.cons_eq_append_iff.mp hs
      · exact hhere d
      · simpa using ih hlater rfl

/-- A text from which nothing is removed has no match. -/
theorem not_spans_of_removeAll (hp : p.consumes = true) {s : List Char}
    (h : p.removeAll s = s) {c d : Cursor} (hc : c.text = s) : ¬ p.Spans c d := by
  intro hspans
  have hmay : p.mayMatch s = true := hspans.mayMatch ⟨c.before.reverse, hc⟩
  rw [removeAll, if_pos hmay] at h
  exact not_spans_of_removeFrom hp h hc.symm d (by simpa using hspans)

/-- A text from whose start nothing is removed does not begin with a match. -/
theorem not_spans_of_removeAtStart (hp : p.consumes = true) {s : List Char}
    (h : p.removeAtStart s = s) {d : Cursor} : ¬ p.Spans (.ofText s) d := by
  intro hspans
  obtain ⟨n, hn⟩ := Option.isSome_iff_exists.mp hspans.isSome_matchLength?
  have hpos := matchLength?_pos hp hn
  have hlt : d.rest.length < s.length := hspans.length_lt hp
  rw [removeAtStart, hn] at h
  have hlen := congrArg List.length h
  rw [List.length_drop] at hlen
  omega

/-- Matches that reach the end of a text begin at the marks computed for it. -/
theorem getD_reach_iff {s : List Char} {c : Cursor} (hc : c.text = s) :
    (p.reach s.reverse [true]).getD c.rest.length false = true ↔ p.Leads (·.rest = []) c := by
  have hrev : s.reverse = c.rest.reverse ++ c.before := by
    rw [← hc, Cursor.text, List.reverse_append, List.reverse_reverse]
  have hle : c.rest.length ≤ s.reverse.length := by
    rw [hrev, List.length_append, List.length_reverse]
    exact Nat.le_add_right _ _
  rw [Marks.marked_iff.mp (p.marked_reach (Marks.marked_end s)) _ hle]
  simp [hrev]

theorem exists_longestEnding? {s : List Char} {c : Cursor} (hc : c.text = s)
    (h : p.Leads (·.rest = []) c) : ∃ n, p.longestEnding? s = some n ∧ c.rest.length ≤ n := by
  have hmay : p.mayMatch s = true := by
    obtain ⟨d, hspans, -⟩ := h
    exact hspans.mayMatch ⟨c.before.reverse, hc⟩
  obtain ⟨n, hn, hle⟩ := Marks.exists_lastFrom none 0 ((getD_reach_iff hc).mpr h)
  exact ⟨n, by rw [longestEnding?, if_pos hmay, hn], by omega⟩

/-- A text from whose end nothing is removed does not end in a match. -/
theorem not_spans_of_removeAtEnd (hp : p.consumes = true) {s : List Char}
    (h : p.removeAtEnd s = s) {c d : Cursor} (hc : c.text = s) (hd : d.rest = []) :
    ¬ p.Spans c d := by
  intro hspans
  have hlt := hspans.length_lt hp
  have hlen : s.length = c.before.length + c.rest.length := by
    rw [← hc, Cursor.text, List.length_append, List.length_reverse]
  obtain ⟨n, hn, hle⟩ := exists_longestEnding? hc ⟨d, hspans, hd⟩
  rw [removeAtEnd, hn] at h
  have := congrArg List.length h
  rw [List.length_take] at this
  omega

end Pattern

end Prosopography
