import Mathlib
import Prosopography.Decimal.Nearest

/-!
# Nearest doubles are numbers

The bits of the double nearest to a quotient are at most those of infinity, and no such bits
are those of NaN.
-/

namespace Prosopography.Decimal

open Float.Model (Format)
open Float.Model.UnpackedFloat

/-- Bits that are at most those of infinity are not those of NaN. -/
theorem not_isNaNBits {b : UInt64} (h : b.toNat ≤ infinityBits) :
    ¬ @isNaNBits .binary64 b.toBitVec = true := by
  simp only [isNaNBits, decide_eq_true_eq, not_and, not_not]
  intro hones
  have hexponent : b.toNat / 2 ^ 52 % 2 ^ 11 = 2 ^ 11 - 1 := by
    simpa [unpackExponent, Nat.shiftRight_eq_div_pow] using congrArg BitVec.toNat hones
  have hmantissa : b.toNat % 2 ^ 52 = 0 := by
    rw [infinityBits] at h
    omega
  apply BitVec.eq_of_toNat_eq
  simpa [unpackMantissa] using hmantissa

/-- Bits that are at most those of infinity are those of a number. -/
theorem isNaN_ofBits {b : UInt64} (h : b.toNat ≤ infinityBits) :
    (Float.ofBits b).isNaN = false := by
  have hnumber := not_isNaNBits h
  -- The only NaN that counts as valid is the canonical one, whose bits are those of NaN.
  have hvalid : Format.binary64.Valid b.toBitVec :=
    ⟨fun hexponent hmantissa => absurd (decide_eq_true ⟨hexponent, hmantissa⟩) hnumber⟩
  have hpacked : (Float.ofBits b).isNaN = (unpack .binary64 b.toBitVec).isNaN :=
    congrArg (fun bits => (unpack .binary64 bits).isNaN) (pack_unpack_of_valid hvalid)
  rw [hpacked, Bool.eq_false_iff, ne_eq, isNaN_unpack_iff_of_valid hvalid]
  intro hnan
  rw [hnan] at hnumber
  exact hnumber isNaNBits_packedNaN

/-- Rounding never passes infinity. -/
theorem nearestBits_le (a b : Nat) : nearestBits a b ≤ infinityBits := by
  simp only [nearestBits]
  split
  · rename_i hsmall
    exact Nat.le_trans (Nat.le_of_lt hsmall) (by decide)
  · exact Nat.min_le_right _ _

/-- No quotient is taken as NaN. -/
theorem isNaN_nearestQuotient (a b : Nat) : (nearestQuotient a b).isNaN = false := by
  apply isNaN_ofBits
  rw [Nat.toUInt64_eq, UInt64.toNat_ofNat']
  exact Nat.le_trans (Nat.mod_le _ _) (nearestBits_le a b)

end Prosopography.Decimal
