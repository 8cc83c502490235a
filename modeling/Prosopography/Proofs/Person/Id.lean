import Prosopography.Person.Id
import Prosopography.Text.Utf8
import Mathlib.Algebra.GroupWithZero.Nat
import Mathlib.Data.List.Basic
import Mathlib.Logic.Function.Basic

/-!
# Identifiers tell sequence numbers apart

The digits of an identifier read back as its sequence number, whether the number
falls short of the width, fills it or outgrows it. As long as it does not outgrow the
width, identifiers have as many digits each, so their bytes are ordered as the numbers are.
-/

namespace Prosopography

namespace PersonId

/-- Identifiers are ordered as the bytes of their texts are. -/
instance : LT PersonId := ⟨fun a b => Text.bytes a.text < Text.bytes b.text⟩

/-- Padding does not change the number that the digits stand for. -/
theorem ofDigitChars_padded (width n : Nat) : Nat.ofDigitChars 10 (padded width n) 0 = n := by
  rw [padded, Nat.ofDigitChars_append, Nat.ofDigitChars_replicate_zero, Nat.mul_zero,
    Nat.ofDigitChars_ten_toDigits]

/-- Numbers are told apart by their padded digits. -/
theorem padded_injective (width : Nat) : Function.Injective (padded width) :=
  Function.LeftInverse.injective (ofDigitChars_padded width)

/-- Numbers are told apart by their identifiers. -/
theorem sequential_injective (stem : String) (width : Nat) :
    Function.Injective (sequential stem width) := by
  intro m n h
  have htext : stem.toList ++ padded width m = stem.toList ++ padded width n := by
    simpa [sequential] using congrArg (·.text.toList) h
  exact padded_injective width (List.append_cancel_left htext)

example : (sequential "P" 3 1234).text = "P1234" ∧ (sequential "P" 3 7).text = "P007" := by decide

section Order

theorem toNat_of_isDigit {c : Char} (h : c.isDigit = true) : 48 ≤ c.toNat ∧ c.toNat ≤ 57 := by
  obtain ⟨hlow, hhigh⟩ := Bool.and_eq_true_iff.mp h
  exact ⟨of_decide_eq_true hlow, of_decide_eq_true hhigh⟩

/-- The first of several digits counts as many times as there are numbers of the others. -/
theorem ofDigitChars_cons_zero (c : Char) (l : List Char) :
    Nat.ofDigitChars 10 (c :: l) 0 =
      10 ^ l.length * (c.toNat - 48) + Nat.ofDigitChars 10 l 0 := by
  rw [Nat.ofDigitChars_cons, Nat.ofDigitChars_eq_ofDigitChars_zero, Nat.mul_zero, Nat.zero_add]
  rfl

theorem ofDigitChars_cons_lt (c : Char) {l : List Char}
    (h : Nat.ofDigitChars 10 l 0 < 10 ^ l.length) :
    Nat.ofDigitChars 10 (c :: l) 0 < 10 ^ l.length * (c.toNat - 48 + 1) := by
  rw [ofDigitChars_cons_zero, Nat.mul_succ]
  exact Nat.add_lt_add_left h _

/-- A number of `n` digits is less than the `n`-th power of ten. -/
theorem ofDigitChars_lt {l : List Char} (h : ∀ c ∈ l, c.isDigit = true) :
    Nat.ofDigitChars 10 l 0 < 10 ^ l.length := by
  induction l with
  | nil => exact Nat.one_pos
  | cons c l ih =>
      obtain ⟨hc, hl⟩ := List.forall_mem_cons.mp h
      have hdigit : c.toNat - 48 + 1 ≤ 10 := by
        have := toNat_of_isDigit hc
        omega
      calc
        Nat.ofDigitChars 10 (c :: l) 0 < 10 ^ l.length * (c.toNat - 48 + 1) :=
          ofDigitChars_cons_lt c (ih hl)
        _ ≤ 10 ^ l.length * 10 := Nat.mul_le_mul_left _ hdigit
        _ = 10 ^ (c :: l).length := (Nat.pow_succ ..).symm

theorem utf8EncodeChar_of_isDigit {c : Char} (h : c.isDigit = true) :
    String.utf8EncodeChar c = [c.val.toUInt8] := by
  apply String.utf8EncodeChar_eq_singleton
  rw [Char.utf8Size_eq_one_iff, UInt32.le_iff_toNat_le]
  exact Nat.le_trans (toNat_of_isDigit h).2 (by decide)

theorem toUInt8_lt_iff {c d : Char} (hc : c.isDigit = true) (hd : d.isDigit = true) :
    c.val.toUInt8 < d.val.toUInt8 ↔ c.toNat < d.toNat := by
  have hsame : ∀ {c : Char}, c.isDigit = true → c.val.toUInt8.toNat = c.toNat := by
    intro c h
    rw [UInt32.toNat_toUInt8]
    have := toNat_of_isDigit h
    exact Nat.mod_eq_of_lt (by change c.toNat < _; omega)
  rw [UInt8.lt_iff_toNat_lt, hsame hc, hsame hd]

/-- Of as many digits each, those of the smaller number come first. -/
theorem map_toUInt8_lt {l l' : List Char} (hlength : l.length = l'.length)
    (hl : ∀ c ∈ l, c.isDigit = true) (hl' : ∀ c ∈ l', c.isDigit = true)
    (hlt : Nat.ofDigitChars 10 l 0 < Nat.ofDigitChars 10 l' 0) :
    l.map (·.val.toUInt8) < l'.map (·.val.toUInt8) := by
  induction l generalizing l' with
  | nil =>
      obtain rfl := List.length_eq_zero_iff.mp hlength.symm
      exact absurd hlt (Nat.lt_irrefl _)
  | cons c l ih =>
      obtain ⟨d, l', rfl⟩ := List.exists_cons_of_length_eq_add_one hlength.symm
      have htail : l.length = l'.length := Nat.succ.inj hlength
      obtain ⟨hc, hrest⟩ := List.forall_mem_cons.mp hl
      obtain ⟨hd, hrest'⟩ := List.forall_mem_cons.mp hl'
      rw [List.map_cons, List.map_cons, List.cons_lt_cons_iff, toUInt8_lt_iff hc hd]
      rcases Nat.lt_trichotomy c.toNat d.toNat with hcd | hcd | hdc
      · exact .inl hcd
      · obtain rfl := Char.toNat_inj.mp hcd
        rw [ofDigitChars_cons_zero, ofDigitChars_cons_zero, htail] at hlt
        exact .inr ⟨rfl, ih htail hrest hrest' (Nat.lt_of_add_lt_add_left hlt)⟩
      · -- A greater first digit outweighs all the others.
        have hstep : d.toNat - 48 + 1 ≤ c.toNat - 48 := by
          have := toNat_of_isDigit hd
          omega
        have hge : Nat.ofDigitChars 10 (d :: l') 0 ≤ Nat.ofDigitChars 10 (c :: l) 0 := by
          calc
            Nat.ofDigitChars 10 (d :: l') 0 ≤ 10 ^ l'.length * (d.toNat - 48 + 1) :=
              Nat.le_of_lt (ofDigitChars_cons_lt d (ofDigitChars_lt hrest'))
            _ ≤ 10 ^ l.length * (c.toNat - 48) := htail ▸ Nat.mul_le_mul_left _ hstep
            _ ≤ Nat.ofDigitChars 10 (c :: l) 0 := by
              rw [ofDigitChars_cons_zero]
              exact Nat.le_add_right _ _
        exact absurd hlt (Nat.not_lt.mpr hge)

variable {stem : String} {width m n : Nat}

theorem isDigit_of_mem_padded {c : Char} (h : c ∈ padded width n) : c.isDigit = true := by
  rcases List.mem_append.mp h with h | h
  · rw [List.eq_of_mem_replicate h]
    rfl
  · exact Nat.isDigit_of_mem_toDigits (by decide) (by decide) h

/-- A number that fits the width has exactly that many digits. -/
theorem length_padded (hwidth : 0 < width) (hn : n < 10 ^ width) :
    (padded width n).length = width := by
  rw [padded, List.length_append, List.length_replicate]
  exact Nat.sub_add_cancel ((Nat.length_toDigits_le_iff (by decide) hwidth).mpr hn)

/-- An identifier is its stem followed by one byte for each digit. -/
theorem bytes_sequential :
    Text.bytes (sequential stem width n).text =
      stem.toList.flatMap String.utf8EncodeChar ++ (padded width n).map (·.val.toUInt8) := by
  have hdigits : (padded width n).flatMap String.utf8EncodeChar =
      (padded width n).map (·.val.toUInt8) := by
    rw [List.map_eq_flatMap]
    apply List.flatMap_congr
    intro c hc
    exact utf8EncodeChar_of_isDigit (isDigit_of_mem_padded hc)
  rw [← hdigits, ← List.flatMap_append, Text.bytes, String.toUTF8, sequential,
    String.toByteArray_ofList, List.utf8Encode, List.data_toByteArray]

/-- Within the width, identifiers come in the order of their numbers. -/
theorem sequential_lt_sequential (hmn : m < n) (hn : n < 10 ^ width) :
    sequential stem width m < sequential stem width n := by
  have hwidth : 0 < width := by
    rcases Nat.eq_zero_or_pos width with rfl | h
    · omega
    · exact h
  change Text.bytes _ < Text.bytes _
  rw [bytes_sequential, bytes_sequential]
  apply List.append_left_lt
  apply map_toUInt8_lt
  · rw [length_padded hwidth (Nat.lt_trans hmn hn), length_padded hwidth hn]
  · exact fun _ => isDigit_of_mem_padded
  · exact fun _ => isDigit_of_mem_padded
  · rwa [ofDigitChars_padded, ofDigitChars_padded]

end Order

end PersonId

end Prosopography
