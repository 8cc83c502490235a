import Prosopography.Proofs.Pattern.Leftmost
import Prosopography.Proofs.Text.Blank
import Prosopography.Proofs.Text.Digit
import Prosopography.Proofs.Trial.Date

/-!
# Years named in a text

A text names a year where the digits of a number from 1500 to 1699 stand apart from other
characters of words. The search for it ends at the first four digits that begin like such a year.
If one of them is a digit of another script they are no number, and a year that stands further on
is passed over.
-/

namespace Prosopography.Trial

open Text

/-- The stretch `w` stands after `i` characters of a text, with no character of words next to
it. -/
def StandsAt (s w : List Char) (i : Nat) : Prop :=
  ∃ before after, s = before ++ w ++ after ∧ before.length = i ∧
    before.getLast?.any isWordChar = false ∧ after.head?.any isWordChar = false

/-- The year `n` of the two centuries is written out after `i` characters of a text. -/
def WrittenAt (s : List Char) (n i : Nat) : Prop :=
  1500 ≤ n ∧ n ≤ 1699 ∧ StandsAt s (Nat.toDigits 10 n) i

/-- No year is written out before `n`. -/
def FirstWritten (s : List Char) (n : Nat) : Prop :=
  ∃ i, WrittenAt s n i ∧ ∀ m j, WrittenAt s m j → i ≤ j

/-- Four digits of any scripts that begin like a year of the two centuries. -/
def IsNumeral (w : List Char) : Prop :=
  ∃ c d e, w = ['1', c, d, e] ∧ (c = '5' ∨ c = '6') ∧ isDigit d = true ∧ isDigit e = true

/-- The digits after `i` characters begin like a year, but one is of another script. -/
def ForeignAt (s : List Char) (i : Nat) : Prop :=
  ∃ w, IsNumeral w ∧ (∃ c ∈ w, asciiDigit? c = none) ∧ StandsAt s w i

/-- Such digits stand before all years of a text that names one. -/
def Shadowed (s : List Char) : Prop :=
  (∃ n i, WrittenAt s n i) ∧ ∃ j, ForeignAt s j ∧ ∀ n i, WrittenAt s n i → j < i

/-- A date gives the year that is written out first, and none if there is none. -/
structure GivesFirst (date : String) : Prop where
  some_iff : ∀ y, yearOf date = some y ↔ ∃ n : Nat, y = n ∧ FirstWritten date.toList n
  none_iff : yearOf date = none ↔ ∀ n i, ¬ WrittenAt date.toList n i

section Digits

/-- The digits that count are those of `Nat.digitChar`. -/
theorem asciiDigit?_eq_some_iff {c : Char} {d : Nat} :
    asciiDigit? c = some d ↔ d < 10 ∧ c = d.digitChar := by
  constructor
  · intro h
    have hlt := asciiDigit?_lt h
    rw [asciiDigit?, Option.ite_none_right_eq_some] at h
    obtain ⟨⟨hlow, -⟩, hd⟩ := h
    have hlow : '0'.toNat ≤ c.toNat := hlow
    obtain rfl := Option.some.inj hd
    refine ⟨hlt, Char.toNat_inj.mp ?_⟩
    rw [Nat.toNat_digitChar_of_lt_ten hlt]
    exact (Nat.add_sub_of_le hlow).symm
  · rintro ⟨hd, rfl⟩
    have hnat := Nat.toNat_digitChar_of_lt_ten hd
    have hbounds : '9'.toNat = 57 ∧ '0'.toNat = 48 := ⟨rfl, rfl⟩
    have hrange : '0' ≤ d.digitChar ∧ d.digitChar ≤ '9' := by
      change '0'.toNat ≤ d.digitChar.toNat ∧ d.digitChar.toNat ≤ '9'.toNat
      omega
    rw [asciiDigit?, if_pos hrange, hnat, hbounds.2, Nat.add_sub_cancel_left]

theorem isDigit_digitChar : ∀ d < 10, isDigit d.digitChar = true := by decide

/-- Digits that are read after a number are written after it. -/
theorem toDigits_foldl {ds : List Char} (hds : ∀ c ∈ ds, (asciiDigit? c).isSome = true) {n : Nat}
    (hn : 0 < n) :
    Nat.toDigits 10 (ds.foldl (fun n c => n * 10 + (asciiDigit? c).getD 0) n) =
      Nat.toDigits 10 n ++ ds := by
  induction ds generalizing n with
  | nil => exact (List.append_nil _).symm
  | cons c ds ih =>
      obtain ⟨hc, hrest⟩ := List.forall_mem_cons.mp hds
      obtain ⟨d, hd⟩ := Option.isSome_iff_exists.mp hc
      obtain ⟨hlt, rfl⟩ := asciiDigit?_eq_some_iff.mp hd
      calc
        Nat.toDigits 10 ((d.digitChar :: ds).foldl (fun n c => n * 10 + (asciiDigit? c).getD 0) n) =
            Nat.toDigits 10 (10 * n + d) ++ ds := by
          rw [List.foldl_cons, hd, Option.getD_some, ih hrest (by omega), Nat.mul_comm]
        _ = (Nat.toDigits 10 n ++ Nat.toDigits 10 d) ++ ds := by
          rw [Nat.toDigits_append_toDigits (by decide) hn hlt]
        _ = Nat.toDigits 10 n ++ d.digitChar :: ds := by
          rw [Nat.toDigits_of_lt_base hlt, List.append_assoc]
          rfl

theorem isSome_asciiDigit?_of_mem_toDigits {n : Nat} {c : Char} (h : c ∈ Nat.toDigits 10 n) :
    (asciiDigit? c).isSome = true := by
  have hdigit : c.isDigit = true := Nat.isDigit_of_mem_toDigits (by decide) (by decide) h
  obtain ⟨hlow, hhigh⟩ := Bool.and_eq_true_iff.mp hdigit
  rw [asciiDigit?, if_pos ⟨of_decide_eq_true hlow, of_decide_eq_true hhigh⟩]
  rfl

/-- Numbers are told apart by their digits. -/
theorem toDigits_injective {m n : Nat} (h : Nat.toDigits 10 m = Nat.toDigits 10 n) : m = n := by
  have hread := congrArg (Nat.ofDigitChars 10 · 0) h
  simpa only [Nat.ofDigitChars_ten_toDigits] using hread

end Digits

namespace IsNumeral

variable {w : List Char}

theorem length_eq (h : IsNumeral w) : w.length = 4 := by
  obtain ⟨c, d, e, rfl, -⟩ := h
  rfl

theorem isDigit (h : IsNumeral w) : ∀ c ∈ w, isDigit c = true := by
  obtain ⟨c, d, e, rfl, hc, hd, he⟩ := h
  have hone : Text.isDigit '1' = true := by decide
  have hcentury : Text.isDigit c = true := by
    obtain rfl | rfl := hc
    · decide
    · decide
  simp [hone, hcentury, hd, he]

/-- The digits of a year. -/
theorem of_year {n : Nat} (hlow : 1500 ≤ n) (hhigh : n ≤ 1699) :
    IsNumeral (Nat.toDigits 10 n) := by
  have hcentury : Nat.toDigits 10 (n / 10 / 10) = ['1', (n / 10 / 10 % 10).digitChar] := by
    obtain h | h : n / 10 / 10 = 15 ∨ n / 10 / 10 = 16 := by omega
    · rw [h]
      decide
    · rw [h]
      decide
  refine ⟨(n / 10 / 10 % 10).digitChar, (n / 10 % 10).digitChar, (n % 10).digitChar, ?_, ?_, ?_, ?_⟩
  · rw [Nat.toDigits_of_base_le (by decide) (by omega),
      Nat.toDigits_of_base_le (by decide) (by omega), hcentury]
    rfl
  · rw [Nat.digitChar_eq_five, Nat.digitChar_eq_six]
    omega
  · exact isDigit_digitChar _ (Nat.mod_lt _ (by decide))
  · exact isDigit_digitChar _ (Nat.mod_lt _ (by decide))

/-- Without digits of other scripts the number is that of a year. -/
theorem exists_year (h : IsNumeral w) (hascii : ∀ c ∈ w, (asciiDigit? c).isSome = true) :
    ∃ n, 1500 ≤ n ∧ n ≤ 1699 ∧ w = Nat.toDigits 10 n ∧ number? 4 w = some (n, []) := by
  have hdigits : (w.take 4).takeWhile (fun c => (asciiDigit? c).isSome) = w := by
    rw [List.take_of_length_le h.length_eq.le]
    exact List.takeWhile_eq_self_iff.mpr hascii
  have hread : number? 4 w =
      some (w.foldl (fun n c => n * 10 + (asciiDigit? c).getD 0) 0, []) := by
    have hne : ¬ w.isEmpty = true := by
      rw [List.isEmpty_iff_length_eq_zero, h.length_eq]
      decide
    rw [number?, hdigits, if_neg hne, h.length_eq, List.drop_of_length_le h.length_eq.le]
  obtain ⟨c, d, e, rfl, hc, -⟩ := h
  have hrange : 1500 ≤ ['1', c, d, e].foldl (fun n c => n * 10 + (asciiDigit? c).getD 0) 0 ∧
      ['1', c, d, e].foldl (fun n c => n * 10 + (asciiDigit? c).getD 0) 0 ≤ 1699 := by
    have hone : (asciiDigit? '1').getD 0 = 1 := by decide
    have hcentury : (asciiDigit? c).getD 0 = 5 ∨ (asciiDigit? c).getD 0 = 6 := by
      obtain rfl | rfl := hc
      · exact .inl (by decide)
      · exact .inr (by decide)
    have hd := getD_asciiDigit?_lt d
    have he := getD_asciiDigit?_lt e
    simp only [List.foldl_cons, List.foldl_nil, hone]
    omega
  obtain ⟨-, hrest⟩ := List.forall_mem_cons.mp hascii
  exact ⟨_, hrange.1, hrange.2, (toDigits_foldl hrest Nat.one_pos).symm, hread⟩

end IsNumeral

section Edges

theorem isEdge_ahead {c : Char} (h : isWordChar c = true) (before rest : List Char) :
    Pattern.isEdge isWordChar ⟨before, c :: rest⟩ = true ↔
      before.head?.any isWordChar = false := by
  simp [Pattern.isEdge, h]

theorem isEdge_behind {c : Char} (h : isWordChar c = true) (before rest : List Char) :
    Pattern.isEdge isWordChar ⟨c :: before, rest⟩ = true ↔
      rest.head?.any isWordChar = false := by
  simp [Pattern.isEdge, h]

/-- The search looks for such numbers where no character of words is next to them. -/
theorem spans_standaloneYear_iff {c d : Cursor} :
    standaloneYear.Spans c d ↔ ∃ w after, IsNumeral w ∧ c.rest = w ++ after ∧
      d = ⟨w.reverse ++ c.before, after⟩ ∧ c.before.head?.any isWordChar = false ∧
        after.head?.any isWordChar = false := by
  have hone : isWordChar '1' = true := isWordChar_of_isDigit (by decide)
  constructor
  · intro h
    cases h with | seq h hend =>
    cases h with | seq h hfourth =>
    cases h with | seq h hthird =>
    cases h with | seq h hsecond =>
    cases h with | seq hstart hfirst =>
    cases hstart with | edge hstart =>
    cases hfirst with | @chars _ before _ =>
    cases hsecond with | @one _ second _ _ hsecond =>
    cases hthird with | @one _ third _ _ hthird =>
    cases hfourth with | @one _ fourth _ after hfourth =>
    cases hend with | edge hend =>
    refine ⟨['1', second, third, fourth], after, ?_, rfl, rfl, ?_, ?_⟩
    · exact ⟨second, third, fourth, rfl, by simpa using hsecond, hthird, hfourth⟩
    · exact (isEdge_ahead hone _ _).mp hstart
    · exact (isEdge_behind (isWordChar_of_isDigit hfourth) _ _).mp hend
  · rintro ⟨w, after, ⟨second, third, fourth, rfl, hsecond, hthird, hfourth⟩, hrest, rfl, hbefore,
      hafter⟩
    obtain ⟨before, rest⟩ := c
    obtain rfl : rest = _ := hrest
    have hstart := (isEdge_ahead hone before (second :: third :: fourth :: after)).mpr hbefore
    have hend := (isEdge_behind (isWordChar_of_isDigit hfourth)
      (third :: second :: '1' :: before) after).mpr hafter
    have hsecond : (second == '5' || second == '6') = true := by simpa using hsecond
    exact .seq (.seq (.seq (.seq (.seq (.edge hstart) (.chars (w := ['1']))) (.one hsecond))
      (.one hthird)) (.one hfourth)) (.edge hend)

/-- A number that stands apart is a match of the search. -/
theorem StandsAt.exists_spans {s w : List Char} {i : Nat} (h : StandsAt s w i)
    (hw : IsNumeral w) :
    ∃ c d : Cursor, c.text = s ∧ c.before.length = i ∧ standaloneYear.Spans c d := by
  obtain ⟨before, after, rfl, rfl, hbefore, hafter⟩ := h
  refine ⟨⟨before.reverse, w ++ after⟩, ⟨w.reverse ++ before.reverse, after⟩, ?_,
    List.length_reverse, ?_⟩
  · simp [Cursor.text]
  · apply spans_standaloneYear_iff.mpr
    exact ⟨w, after, hw, rfl, rfl, by rwa [List.head?_reverse], hafter⟩

/-- What is found is the first of the numbers that stand apart. -/
theorem exists_first_of_find? {s w : List Char} (h : standaloneYear.find? s = some w) :
    IsNumeral w ∧ ∃ i, StandsAt s w i ∧ ∀ v j, IsNumeral v → StandsAt s v j → i ≤ j := by
  obtain ⟨c, n, rfl, hspans, htake, hleft⟩ := Pattern.exists_leftmost_of_find? h
  obtain ⟨v, after, hv, hrest, hpast, hbefore, hafter⟩ := spans_standaloneYear_iff.mp hspans
  obtain rfl : v = w := by
    have hdrop : c.rest.drop n = after := congrArg Cursor.rest hpast
    have hsplit := (List.take_append_drop n c.rest).trans hrest
    rw [htake, hdrop] at hsplit
    exact (List.append_cancel_right hsplit).symm
  refine ⟨hv, c.before.length, ⟨c.before.reverse, after, ?_, ?_, ?_, hafter⟩, ?_⟩
  · rw [Cursor.text, hrest, List.append_assoc]
  · exact List.length_reverse
  · rwa [List.getLast?_reverse]
  · intro u j hu hstands
    obtain ⟨d, e, htext, rfl, he⟩ := hstands.exists_spans hu
    exact hleft d e htext he

/-- Where no year is found, no numeral of a year stands on its own. -/
theorem not_standsAt_of_find? {s w : List Char} (h : standaloneYear.find? s = none)
    (hw : IsNumeral w) (i : Nat) : ¬ StandsAt s w i := by
  intro hstands
  obtain ⟨c, d, htext, -, hspans⟩ := hstands.exists_spans hw
  exact Pattern.not_spans_of_find? h htext d hspans

end Edges

/-- One place holds one numeral of a length. -/
theorem StandsAt.unique {s v w : List Char} {i : Nat} (hv : StandsAt s v i)
    (hw : StandsAt s w i) (hlength : v.length = w.length) : v = w := by
  have heq : ∀ {u}, StandsAt s u i → u = (s.drop i).take u.length := by
    rintro u ⟨before, after, rfl, rfl, -⟩
    simp
  calc
    v = (s.drop i).take v.length := heq hv
    _ = (s.drop i).take w.length := by rw [hlength]
    _ = w := (heq hw).symm

/-- The year of a text is the one written out at the first number that stands apart. -/
theorem namedYear?_eq_some_iff {s : List Char} {y : Int} :
    namedYear? s = some y ↔ ∃ (n i : Nat), y = n ∧ WrittenAt s n i ∧
      ∀ w j, IsNumeral w → StandsAt s w j → i ≤ j := by
  cases hfind : standaloneYear.find? s with
  | none =>
      have hnone : namedYear? s = none := by
        rw [namedYear?, hfind]
        rfl
      rw [hnone]
      refine iff_of_false (Option.some_ne_none y).symm ?_
      rintro ⟨n, i, -, ⟨hlow, hhigh, hstands⟩, -⟩
      exact not_standsAt_of_find? hfind (.of_year hlow hhigh) i hstands
  | some w =>
      obtain ⟨hw, i, hstands, hleft⟩ := exists_first_of_find? hfind
      have hread : namedYear? s = if w.all (fun c => (asciiDigit? c).isSome) then
          (number? 4 w).map (fun p => (p.1 : Int)) else none := by
        rw [namedYear?, hfind]
        rfl
      rw [hread, Option.ite_none_right_eq_some, List.all_eq_true]
      constructor
      · rintro ⟨hascii, hy⟩
        obtain ⟨n, hlow, hhigh, rfl, hnumber⟩ := hw.exists_year hascii
        rw [hnumber] at hy
        exact ⟨n, i, (Option.some.inj hy).symm, ⟨hlow, hhigh, hstands⟩, hleft⟩
      · rintro ⟨n, j, rfl, ⟨hlow, hhigh, hyear⟩, hfirst⟩
        have hn := IsNumeral.of_year hlow hhigh
        obtain rfl : i = j := Nat.le_antisymm (hleft _ j hn hyear) (hfirst w i hw hstands)
        obtain rfl : w = Nat.toDigits 10 n :=
          hstands.unique hyear (hw.length_eq.trans hn.length_eq.symm)
        have hascii : ∀ c ∈ Nat.toDigits 10 n, (asciiDigit? c).isSome = true :=
          fun c => isSome_asciiDigit?_of_mem_toDigits
        obtain ⟨m, -, -, hdigits, hnumber⟩ := hw.exists_year hascii
        obtain rfl := toDigits_injective hdigits
        exact ⟨hascii, by rw [hnumber]; rfl⟩

section Blanks

variable {s w : List Char} {i : Nat}

theorem IsNumeral.isBlank (h : IsNumeral w) {c : Char} (hc : c ∈ w) : isBlank c = false := by
  rw [← Bool.not_eq_true]
  intro hblank
  exact Bool.false_ne_true ((lacksBlanks_isDigit c hblank).symm.trans (h.isDigit c hc))

theorem standsAt_cons_iff {x : Char} (hx : isBlank x = true) (hw : IsNumeral w) :
    StandsAt (x :: s) w i ↔ ∃ j, i = j + 1 ∧ StandsAt s w j := by
  have hword := lacksBlanks_isWordChar x hx
  constructor
  · rintro ⟨before, after, hs, rfl, hbefore, hafter⟩
    cases before with
    | nil =>
        -- The blank would be the first digit.
        obtain ⟨c, d, e, rfl, -⟩ := id hw
        obtain ⟨rfl, -⟩ := List.cons.inj hs
        exact absurd hx (by decide)
    | cons y before =>
        obtain ⟨rfl, rfl⟩ := List.cons.inj hs
        refine ⟨before.length, rfl, before, after, rfl, rfl, ?_, hafter⟩
        cases before with
        | nil => rfl
        | cons z before => rwa [List.getLast?_cons_cons] at hbefore
  · rintro ⟨j, rfl, before, after, rfl, rfl, hbefore, hafter⟩
    refine ⟨x :: before, after, rfl, rfl, ?_, hafter⟩
    cases before with
    | nil => exact hword
    | cons z before => rwa [List.getLast?_cons_cons]

theorem standsAt_concat_iff {x : Char} (hx : isBlank x = true) (hw : IsNumeral w) :
    StandsAt (s ++ [x]) w i ↔ StandsAt s w i := by
  have hword := lacksBlanks_isWordChar x hx
  constructor
  · rintro ⟨before, after, hs, rfl, hbefore, hafter⟩
    obtain rfl | ⟨after, y, rfl⟩ := List.eq_nil_or_concat after
    · -- The blank would be the last digit.
      obtain ⟨c, d, e, rfl, -⟩ := id hw
      have hlast := congrArg List.getLast? hs
      obtain rfl : x = e := by simpa using hlast
      exact absurd hx (by simp [hw.isBlank (c := x)])
    · rw [List.concat_eq_append, ← List.append_assoc] at hs
      obtain ⟨rfl, -⟩ := List.append_inj' hs rfl
      refine ⟨before, after, rfl, rfl, hbefore, ?_⟩
      cases after with
      | nil => rfl
      | cons z after => exact hafter
  · rintro ⟨before, after, rfl, rfl, hbefore, hafter⟩
    refine ⟨before, after ++ [x], by simp, rfl, hbefore, ?_⟩
    cases after with
    | nil => exact hword
    | cons z after => exact hafter

/-- Blanks before a text move its numerals. -/
theorem standsAt_append_iff {a : List Char} (ha : ∀ x ∈ a, isBlank x = true) (hw : IsNumeral w) :
    StandsAt (a ++ s) w i ↔ ∃ j, i = a.length + j ∧ StandsAt s w j := by
  induction a generalizing i with
  | nil => simp
  | cons x a ih =>
      obtain ⟨hx, ha⟩ := List.forall_mem_cons.mp ha
      rw [List.cons_append, standsAt_cons_iff hx hw]
      simp only [ih ha]
      constructor
      · rintro ⟨j, rfl, k, rfl, h⟩
        exact ⟨k, by rw [List.length_cons]; omega, h⟩
      · rintro ⟨k, rfl, h⟩
        exact ⟨a.length + k, by rw [List.length_cons]; omega, k, rfl, h⟩

/-- Blanks behind a text leave its numerals in place. -/
theorem standsAt_append_right_iff {b : List Char} (hb : ∀ x ∈ b, isBlank x = true)
    (hw : IsNumeral w) : StandsAt (s ++ b) w i ↔ StandsAt s w i := by
  induction b generalizing s with
  | nil => rw [List.append_nil]
  | cons x b ih =>
      obtain ⟨hx, hb⟩ := List.forall_mem_cons.mp hb
      rw [List.append_cons, ih hb, standsAt_concat_iff hx hw]

/-- Trimming moves all numbers by so many characters as it takes from the start. -/
theorem exists_standsAt_trim_iff (s : List Char) : ∃ k, ∀ w i, IsNumeral w →
    (StandsAt s w i ↔ ∃ j, i = k + j ∧ StandsAt (trim s) w j) := by
  obtain ⟨a, b, ha, hb, hs⟩ := exists_eq_append_trimBy_append isBlank s
  refine ⟨a.length, fun w i hw => ?_⟩
  calc
    StandsAt s w i ↔ StandsAt (a ++ trim s ++ b) w i := by rw [← trim] at hs; rw [← hs]
    _ ↔ StandsAt (a ++ trim s) w i := standsAt_append_right_iff hb hw
    _ ↔ ∃ j, i = a.length + j ∧ StandsAt (trim s) w j := standsAt_append_iff ha hw

/-- Blanks around a text make no difference to its year. -/
theorem namedYear?_trim (s : List Char) : namedYear? (trim s) = namedYear? s := by
  obtain ⟨k, hk⟩ := exists_standsAt_trim_iff s
  ext y
  rw [namedYear?_eq_some_iff, namedYear?_eq_some_iff]
  constructor
  · rintro ⟨n, i, rfl, ⟨hlow, hhigh, hstands⟩, hfirst⟩
    have hn := IsNumeral.of_year hlow hhigh
    refine ⟨n, k + i, rfl, ⟨hlow, hhigh, (hk _ _ hn).mpr ⟨i, rfl, hstands⟩⟩, ?_⟩
    intro w j hw hj
    obtain ⟨m, rfl, hm⟩ := (hk w j hw).mp hj
    exact Nat.add_le_add_left (hfirst w m hw hm) k
  · rintro ⟨n, i, rfl, ⟨hlow, hhigh, hstands⟩, hfirst⟩
    have hn := IsNumeral.of_year hlow hhigh
    obtain ⟨i, rfl, hi⟩ := (hk _ i hn).mp hstands
    refine ⟨n, i, rfl, ⟨hlow, hhigh, hi⟩, ?_⟩
    intro w j hw hj
    exact Nat.le_of_add_le_add_left (hfirst w (k + j) hw ((hk w _ hw).mpr ⟨j, rfl, hj⟩))

end Blanks

theorem yearOf_of_calendarYear? {date : String} (h : calendarYear? (trim date.toList) = none) :
    yearOf date = namedYear? date.toList := by
  simp only [yearOf, h, namedYear?_trim]

section Shadows

variable {s : List Char}

theorem WrittenAt.exists_first {n i : Nat} (h : WrittenAt s n i) : ∃ m, FirstWritten s m := by
  classical
  have hsome : ∃ j m, WrittenAt s m j := ⟨i, n, h⟩
  obtain ⟨m, hm⟩ := Nat.find_spec hsome
  exact ⟨m, Nat.find hsome, hm, fun m' j hj => Nat.find_min' hsome ⟨m', hj⟩⟩

/-- A number that stands apart is a year, or one of its digits is of another script. -/
theorem StandsAt.written_or_foreign {w : List Char} {i : Nat} (h : StandsAt s w i)
    (hw : IsNumeral w) : (∃ n, WrittenAt s n i) ∨ ForeignAt s i := by
  by_cases hascii : ∀ c ∈ w, (asciiDigit? c).isSome = true
  · obtain ⟨n, hlow, hhigh, rfl, -⟩ := hw.exists_year hascii
    exact .inl ⟨n, hlow, hhigh, h⟩
  · obtain ⟨c, hc, hnone⟩ : ∃ c ∈ w, asciiDigit? c = none := by simpa using hascii
    exact .inr ⟨w, hw, ⟨c, hc, hnone⟩, h⟩

/-- A text without digits of other scripts is not shadowed. -/
theorem not_shadowed_of_ascii (h : s.all (fun c => !isDigit c || (asciiDigit? c).isSome) = true) :
    ¬ Shadowed s := by
  rintro ⟨-, j, ⟨w, hw, ⟨c, hc, hnone⟩, before, after, rfl, -⟩, -⟩
  have hascii := List.all_eq_true.mp h c (by simp [hc])
  rw [hw.isDigit c hc, hnone] at hascii
  exact Bool.false_ne_true hascii

/-- A shadowed text gives no year, even if one is written further on. -/
theorem namedYear?_of_shadowed (h : Shadowed s) : namedYear? s = none := by
  obtain ⟨-, j, ⟨w, hw, -, hstands⟩, hbefore⟩ := h
  apply Option.eq_none_iff_forall_ne_some.mpr
  intro y hy
  obtain ⟨n, i, -, hwritten, hfirst⟩ := namedYear?_eq_some_iff.mp hy
  exact Nat.lt_irrefl _ (Nat.lt_of_lt_of_le (hbefore n i hwritten) (hfirst w j hw hstands))

/-- A text that is not shadowed gives the first year written in it. -/
theorem namedYear?_of_not_shadowed (h : ¬ Shadowed s) {y : Int} :
    namedYear? s = some y ↔ ∃ n : Nat, y = n ∧ FirstWritten s n := by
  rw [namedYear?_eq_some_iff]
  constructor
  · rintro ⟨n, i, rfl, hwritten, hfirst⟩
    exact ⟨n, rfl, i, hwritten, fun m j hj => hfirst _ j (.of_year hj.1 hj.2.1) hj.2.2⟩
  · rintro ⟨n, rfl, i, hwritten, hfirst⟩
    refine ⟨n, i, rfl, hwritten, ?_⟩
    intro w j hw hstands
    by_contra hlt
    -- An earlier number is no year, so it stands before all of them.
    obtain ⟨m, hm⟩ | hforeign := hstands.written_or_foreign hw
    · exact hlt (hfirst m j hm)
    · refine h ⟨⟨n, i, hwritten⟩, j, hforeign, ?_⟩
      intro m k hk
      exact Nat.lt_of_lt_of_le (Nat.lt_of_not_le hlt) (hfirst m k hk)

end Shadows

/-- A date that is not a full one gives the year written out first exactly where no digits of
other scripts take its place. -/
theorem givesFirst_iff {date : String} (h : calendarYear? (trim date.toList) = none) :
    GivesFirst date ↔ ¬ Shadowed date.toList := by
  have hyear := yearOf_of_calendarYear? h
  constructor
  · intro hgives hshadowed
    obtain ⟨n, i, hwritten⟩ := hshadowed.1
    have hnone := hyear.trans (namedYear?_of_shadowed hshadowed)
    exact hgives.none_iff.mp hnone n i hwritten
  · intro hclear
    have hsome : ∀ y, yearOf date = some y ↔ ∃ n : Nat, y = n ∧ FirstWritten date.toList n :=
      fun y => by rw [hyear, namedYear?_of_not_shadowed hclear]
    refine ⟨hsome, ?_⟩
    rw [Option.eq_none_iff_forall_ne_some]
    constructor
    · intro hnone n i hwritten
      obtain ⟨m, hm⟩ := hwritten.exists_first
      exact hnone m ((hsome m).mpr ⟨m, rfl, hm⟩)
    · intro hnone y hy
      obtain ⟨n, -, i, hwritten, -⟩ := (hsome y).mp hy
      exact hnone n i hwritten

/-- A text of three numbers, of which the first is too long and the second is taken. -/
theorem givesFirst_severalNumbers :
    calendarYear? (trim " 21590, 1598 (1601) ".toList) = none ∧
      yearOf " 21590, 1598 (1601) " = some 1598 ∧
      GivesFirst " 21590, 1598 (1601) " := by
  have hdate : calendarYear? (trim " 21590, 1598 (1601) ".toList) = none := by
    decide +kernel
  refine ⟨hdate, by decide +kernel, (givesFirst_iff hdate).mpr ?_⟩
  exact not_shadowed_of_ascii (by decide +kernel)

/-- The year 1601 stands after four digits of which two are of another script. -/
theorem not_givesFirst_foreignDigits :
    calendarYear? (trim "15९९ 1601".toList) = none ∧ ¬ GivesFirst "15९९ 1601" := by
  refine ⟨by decide +kernel, fun hgives => ?_⟩
  have hnone : yearOf "15९९ 1601" = none := by decide +kernel
  apply hgives.none_iff.mp hnone 1601 5
  exact ⟨by decide, by decide, "15९९ ".toList, [], by decide, by decide, by decide, by decide⟩

end Prosopography.Trial
