import Prosopography.Proofs.Pattern.Ending

/-!
# Erasing matches

Removing all matches and removing the longest ending are one process: a search is made from one
position after the other, what it finds is erased, and a character from which it finds nothing is
kept.
-/

namespace Prosopography

open Cursor

/-- What is left of the rest of a text when the search is made from one position after the
other, and again from the end of what it finds. -/
inductive Erases (find : Cursor → Option Cursor) : Cursor → List Char → Prop
  | stop {b} : find ⟨b, []⟩ = none → Erases find ⟨b, []⟩ []
  | hit {c d t} : find c = some d → d.rest.length < c.rest.length → Erases find d t →
      Erases find c t
  | keep {b x s t} : find ⟨b, x :: s⟩ = none → Erases find ⟨x :: b, s⟩ t →
      Erases find ⟨b, x :: s⟩ (x :: t)

/-- The position so many characters on. -/
def Cursor.past (c : Cursor) (n : Nat) : Cursor :=
  ⟨(c.rest.take n).reverse ++ c.before, c.rest.drop n⟩

namespace Erases

variable {find : Cursor → Option Cursor} {b s t : List Char} {c d : Cursor} {x : Char}

/-- Where a match begins, it is taken out. -/
theorem of_some (h : Erases find c t) (hd : find c = some d) :
    d.rest.length < c.rest.length ∧ Erases find d t := by
  cases h with
  | stop hnone => cases hnone.symm.trans hd
  | hit hsome hlt h =>
      obtain rfl := Option.some.inj (hsome.symm.trans hd)
      exact ⟨hlt, h⟩
  | keep hnone => cases hnone.symm.trans hd

/-- Where no match begins, the character stays. -/
theorem of_none (h : Erases find ⟨b, x :: s⟩ t) (hnone : find ⟨b, x :: s⟩ = none) :
    ∃ u, t = x :: u ∧ Erases find ⟨x :: b, s⟩ u := by
  cases h with
  | hit hsome => cases hsome.symm.trans hnone
  | keep _ h => exact ⟨_, rfl, h⟩

theorem of_nil (h : Erases find ⟨b, []⟩ t) : t = [] := by
  cases h with
  | stop => rfl
  | hit _ hlt => exact absurd hlt (Nat.not_lt_zero _)

/-- Where nothing is found before a position of a text, all that stands before it is kept. -/
theorem keep_all {u : List Char}
    (hnone : ∀ c : Cursor, c.text = b.reverse ++ (u ++ s) → s.length < c.rest.length →
      find c = none)
    (h : Erases find ⟨u.reverse ++ b, s⟩ t) : Erases find ⟨b, u ++ s⟩ (u ++ t) := by
  induction u generalizing b with
  | nil => exact h
  | cons x u ih =>
      refine .keep (hnone _ rfl ?_) (ih ?_ (by simpa using h))
      · change s.length < (x :: (u ++ s)).length
        rw [List.length_cons, List.length_append]
        omega
      · intro c hc
        exact hnone c (by simpa using hc)

/-- The text before the first match stays as it is. -/
theorem keep_before
    (hnone : ∀ d : Cursor, d.text = c.text → c.rest.length < d.rest.length → find d = none)
    (h : Erases find c t) : Erases find (.ofText c.text) (c.before.reverse ++ t) :=
  keep_all hnone (by simpa using h)

/-- Where nothing is found in a text, all of it is kept. -/
theorem keep_text (hnone : ∀ d : Cursor, d.text = s → find d = none) :
    Erases find (.ofText s) s := by
  have hs : (⟨s.reverse, []⟩ : Cursor).text = s := by simp [text]
  have hall := keep_before (fun d hd _ => hnone d (hd.trans hs)) (.stop (hnone _ hs))
  rwa [hs, List.append_nil, List.reverse_reverse] at hall

end Erases

namespace Pattern

variable {p : Pattern} {c d : Cursor} {n : Nat}

theorem Spans.eq_past (h : p.Spans c d) : d = c.past (c.rest.length - d.rest.length) := by
  obtain ⟨w, hrest, hbefore⟩ := h.exists_word
  rw [Cursor.past, hrest, List.length_append, Nat.add_sub_cancel, List.take_left' rfl,
    List.drop_left' rfl, ← hbefore]

theorem spans_of_first (h : p.first some c = some d) : p.Spans c d := by
  obtain ⟨e, hspans, he⟩ := leads_of_first h
  exact Option.some.inj he ▸ hspans

theorem first_eq_none_of_not_spans {k : Cursor → Option Cursor} (h : ∀ d, ¬ p.Spans c d) :
    p.first k c = none := by
  rw [← Option.not_isSome_iff_eq_none, isSome_first]
  exact fun ⟨d, hd, _⟩ => h d hd

/-- A search that finds a match of some length ends so many characters on. -/
theorem first_eq_some_past (h : p.matchLength? c = some n) : p.first some c = some (c.past n) := by
  rw [matchLength?_eq, Option.map_eq_some_iff] at h
  obtain ⟨d, hd, rfl⟩ := h
  rw [hd, ← (spans_of_first hd).eq_past]

/-- A pattern that consumes finds nothing at the end of the text. -/
theorem first_nil_eq_none (hp : p.consumes = true) {k : Cursor → Option Cursor} {b : List Char} :
    p.first k ⟨b, []⟩ = none :=
  first_eq_none_of_not_spans fun _ hd => Nat.not_lt_zero _ (hd.length_lt hp)

/-- The removal takes out matches from left to right, none of them overlapping. -/
theorem erases_removeFrom (hp : p.consumes = true) (skip : Nat) (before s : List Char) :
    Erases (p.first some) (Cursor.past ⟨before, s⟩ skip)
      (p.removeFrom p.firstChars? skip before s) := by
  have hkept {before s t : List Char} {x : Char} (hnone : p.first some ⟨before, x :: s⟩ = none)
      (ih : Erases (p.first some) (Cursor.past ⟨x :: before, s⟩ 0) t) :
      Erases (p.first some) (Cursor.past ⟨before, x :: s⟩ 0) (x :: t) := .keep hnone ih
  fun_induction removeFrom p p.firstChars? skip before s with
  | case1 skip before =>
      simp only [Cursor.past, List.take_nil, List.drop_nil]
      exact .stop (first_nil_eq_none hp)
  | case2 skip before x s ih => simpa [Cursor.past] using ih
  | case3 before x s hbegin n hn ih =>
      have hlt : ((Cursor.past ⟨before, x :: s⟩ (n + 1)).rest).length < (x :: s).length := by
        simp only [Cursor.past, List.length_drop, List.length_cons]
        omega
      refine .hit (first_eq_some_past hn) hlt ?_
      simpa [Cursor.past] using ih
  | case4 before x s hbegin hnone ih =>
      exact hkept (first_eq_none_of_not_spans fun _ => not_spans_of_matchLength? hp hnone) ih
  | case5 before x s hbegin ih =>
      exact hkept (first_eq_none_of_not_spans fun d hd => hbegin hd.mayBegin) ih

/-- Removing all matches erases what the preferred match from each position takes. -/
theorem erases_removeAll (hp : p.consumes = true) (s : List Char) :
    Erases (p.first some) (.ofText s) (p.removeAll s) := by
  rw [removeAll]
  split
  · exact erases_removeFrom hp 0 [] s
  · rename_i hmay
    refine .keep_text fun c hc => first_eq_none_of_not_spans fun d hd => hmay ?_
    exact hd.mayMatch ⟨c.before.reverse, hc⟩

/-- Accepts the end of a text only. -/
def atEnd? (c : Cursor) : Option Cursor := if c.rest = [] then some c else none

theorem atEnd?_eq_some_iff : atEnd? c = some d ↔ c = d ∧ c.rest = [] := by
  rw [atEnd?]
  split <;> simp_all

theorem isSome_first_atEnd? {p : Pattern} {c : Cursor} :
    (p.first atEnd? c).isSome = true ↔ p.Leads (·.rest = []) c := by
  rw [isSome_first]
  simp [atEnd?, Option.isSome_ite]

/-- Removing the longest ending erases the first match that reaches the end. -/
theorem erases_removeAtEnd (hp : p.consumes = true) (s : List Char) :
    Erases (p.first atEnd?) (.ofText s) (p.removeAtEnd s) := by
  have hnone {c : Cursor} (hc : c.text = s)
      (hlong : ∀ n, p.longestEnding? s = some n → n < c.rest.length) :
      p.first atEnd? c = none := by
    rw [← Option.not_isSome_iff_eq_none, isSome_first_atEnd?]
    intro hleads
    obtain ⟨n, hn, hle⟩ := exists_longestEnding? hc hleads
    exact absurd (hlong n hn) (Nat.not_lt_of_le hle)
  rw [removeAtEnd]
  cases h : p.longestEnding? s with
  | none =>
      refine .keep_text fun c hc => hnone hc fun n hn => ?_
      cases h.symm.trans hn
  | some n =>
      obtain ⟨c, rfl, rfl, hleads⟩ := leads_of_longestEnding? h
      obtain ⟨d, hd⟩ := Option.isSome_iff_exists.mp (isSome_first_atEnd?.mpr hleads)
      obtain ⟨e, hspans, he⟩ := leads_of_first hd
      obtain ⟨rfl, hend⟩ := atEnd?_eq_some_iff.mp he
      have htake : c.text.take (c.text.length - c.rest.length) = c.before.reverse ++ [] := by
        simp [Cursor.text]
      dsimp only
      rw [htake]
      refine .keep_before (fun d hd hlt => hnone hd fun n hn => ?_) (.hit hd ?_ ?_)
      · obtain rfl := Option.some.inj (h.symm.trans hn)
        exact hlt
      · exact hspans.length_lt hp
      · obtain ⟨b, rest⟩ := e
        obtain rfl : rest = [] := hend
        exact .stop (first_nil_eq_none hp)

theorem removeAtStart_of_first {s : List Char} (h : p.first some (.ofText s) = some d) :
    p.removeAtStart s = d.rest := by
  have hpast : d.rest = s.drop (s.length - d.rest.length) :=
    congrArg Cursor.rest (spans_of_first h).eq_past
  rw [removeAtStart, matchLength?_eq, h]
  exact hpast.symm

theorem removeAtStart_of_first_eq_none {s : List Char} (h : p.first some (.ofText s) = none) :
    p.removeAtStart s = s := by
  rw [removeAtStart, matchLength?_eq, h]
  rfl

end Pattern

end Prosopography
