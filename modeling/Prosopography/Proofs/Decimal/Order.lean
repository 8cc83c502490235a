import Mathlib.Data.Prod.Lex
import Mathlib.Order.Compare

/-!
# The order of doubles

Doubles are compared by sign, then by exponent and mantissa. All but NaN have a rank,
and their order is the order of ranks; with NaN nothing compares.
-/

namespace Prosopography.Decimal

open Float.Model

/-- The rank of a double that is not NaN; the negative ones come in reverse. -/
def rank : UnpackedFloat → ℤ ×ₗ ℤ ×ₗ ℤ
  | .notANumber | .zero _ => toLex (0, toLex (0, 0))
  | .infinity .positive => toLex (2, toLex (0, 0))
  | .infinity .negative => toLex (-2, toLex (0, 0))
  | .finite .positive m e _ => toLex (1, toLex (e, m))
  | .finite .negative m e _ => toLex (-1, toLex (-e, -m))

section Finite

variable {e f : ℤ} {m k : ℕ}

theorem isLE_compare_then :
    ((compare e f).then (compare m k)).isLE = true ↔ e < f ∨ e = f ∧ m ≤ k := by
  simp only [Ordering.isLE_iff_ne_gt, Ordering.then_eq_gt, compare_gt_iff_gt,
    compare_eq_iff_eq]
  omega

theorem isGE_compare_then :
    ((compare e f).then (compare m k)).isGE = true ↔ f < e ∨ e = f ∧ k ≤ m := by
  simp only [Ordering.isGE_iff_ne_lt, Ordering.then_eq_lt, compare_lt_iff_lt,
    compare_eq_iff_eq]
  omega

end Finite

/-- The order of floats is that of their ranks, as long as none is NaN. -/
theorem lt_iff_rank {a b : UnpackedFloat} :
    a.lt b = true ↔ a.isNaN = false ∧ b.isNaN = false ∧ rank a < rank b := by
  rcases a with (_ | _) | _ | _ | ⟨_ | _, m, e, hm⟩ <;>
    rcases b with (_ | _) | _ | _ | ⟨_ | _, k, f, hk⟩ <;>
    dsimp only [UnpackedFloat.lt, UnpackedFloat.compare, UnpackedFloat.isNaN, rank] <;>
    simp [Prod.Lex.toLex_lt_toLex, Ordering.then_eq_lt, Ordering.then_eq_gt, compare_lt_iff_lt,
      compare_gt_iff_gt]
  all_goals decide

/-- Neither side of a comparison may be NaN, not even of one with itself. -/
theorem le_iff_rank {a b : UnpackedFloat} :
    a.le b = true ↔ a.isNaN = false ∧ b.isNaN = false ∧ rank a ≤ rank b := by
  rcases a with (_ | _) | _ | _ | ⟨_ | _, m, e, hm⟩ <;>
    rcases b with (_ | _) | _ | _ | ⟨_ | _, k, f, hk⟩ <;>
    dsimp only [UnpackedFloat.le, UnpackedFloat.compare, UnpackedFloat.isNaN, rank] <;>
    simp [Prod.Lex.toLex_le_toLex, isLE_compare_then, isGE_compare_then]
  all_goals decide

/-- What a limit refuses, every higher limit refuses. -/
theorem lt_of_lt_of_le {x y z : Float} (hxy : x < y) (hyz : y ≤ z) : x < z := by
  have hlt : x.toModel.unpack.lt y.toModel.unpack = true := of_decide_eq_true hxy
  have hle : y.toModel.unpack.le z.toModel.unpack = true := of_decide_eq_true hyz
  obtain ⟨hx, -, hlt⟩ := lt_iff_rank.mp hlt
  obtain ⟨-, hz, hle⟩ := le_iff_rank.mp hle
  exact decide_eq_true (lt_iff_rank.mpr ⟨hx, hz, hlt.trans_le hle⟩)

/-- Of two doubles that are not NaN, one that is not below the other is at least as great. -/
theorem le_of_not_lt {x y : Float} (hx : x.isNaN = false) (hy : y.isNaN = false) (h : ¬ x < y) :
    y ≤ x := by
  have hranks : ¬ rank x.toModel.unpack < rank y.toModel.unpack :=
    fun hlt => h (decide_eq_true (lt_iff_rank.mpr ⟨hx, hy, hlt⟩))
  exact decide_eq_true (le_iff_rank.mpr ⟨hy, hx, le_of_not_gt hranks⟩)

end Prosopography.Decimal
