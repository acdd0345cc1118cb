import Mathlib.Data.Prod.Lex

/-!
# The order of doubles

Two doubles are compared by what their bits stand for: a sign, a mantissa and an exponent, a zero, an
infinity or no number. Such a number has a place in a line, `place?`, and one is at most another exactly
when both have a place and the places are in this order (`unpackedLE_iff`). So the order of doubles is
transitive (`floatLE_trans`), infinities included, and what is no number is at most nothing and has
nothing below it.
-/

namespace WordStrip.Number

open Float.Model (UnpackedFloat)

/-- Where a number stands among the others: by its sign and whether it is finite, then by its exponent
and its mantissa, both of which count downwards below zero. The two zeros stand in one place. -/
def place? : UnpackedFloat → Option (Int ×ₗ Int ×ₗ Int)
  | .infinity .negative => some (toLex (-2, toLex (0, 0)))
  | .finite .negative mantissa exponent _ => some (toLex (-1, toLex (-exponent, -mantissa)))
  | .zero _ => some (toLex (0, toLex (0, 0)))
  | .finite .positive mantissa exponent _ => some (toLex (1, toLex (exponent, mantissa)))
  | .infinity .positive => some (toLex (2, toLex (0, 0)))
  | .notANumber => none

/-- Sizes are compared by their exponents first. -/
theorem isLE_compare_then {e f : Int} {m n : Nat} :
    ((compare e f).then (compare m n)).isLE = true ↔ e < f ∨ e = f ∧ m ≤ n := by
  rw [Ordering.isLE_then_iff_or, Int.compare_eq_lt, compare_eq_iff_eq, Nat.isLE_compare]

/-- One number is at most another when both have a place, the one not behind the other. -/
theorem unpackedLE_iff (a b : UnpackedFloat) :
    a.le b = true ↔ ∃ x ∈ place? a, ∃ y ∈ place? b, x ≤ y := by
  rcases a with (_ | _) | _ | _ | ⟨_ | _, m, e, _⟩ <;>
    rcases b with (_ | _) | _ | _ | ⟨_ | _, n, f, _⟩ <;>
    dsimp only [place?, UnpackedFloat.le, UnpackedFloat.compare]
  -- two finite numbers of one sign are told apart by their sizes, all others by their first part
  case finite.negative.finite.negative =>
    have sizes : ((compare e f).then (compare m n)).swap.isLE = true ↔ f < e ∨ e = f ∧ n ≤ m := by
      rw [Ordering.swap_then, Int.compare_swap, Nat.compare_swap, isLE_compare_then, @eq_comm _ f e]
    simpa [Prod.Lex.toLex_le_toLex] using sizes
  case finite.positive.finite.positive => simpa [Prod.Lex.toLex_le_toLex] using isLE_compare_then
  all_goals simp [Prod.Lex.toLex_le_toLex, compare]

theorem unpackedLE_trans {a b c : UnpackedFloat} (ab : a.le b = true) (bc : b.le c = true) :
    a.le c = true := by
  obtain ⟨x, hx, y, hy, xy⟩ := (unpackedLE_iff a b).mp ab
  obtain ⟨y', hy', z, hz, yz⟩ := (unpackedLE_iff b c).mp bc
  obtain rfl : y = y' := Option.mem_unique hy hy'
  exact (unpackedLE_iff a c).mpr ⟨x, hx, z, hz, le_trans xy yz⟩

/-- The order of doubles is transitive. -/
theorem floatLE_trans {x y z : Float} (xy : x ≤ y) (yz : y ≤ z) : x ≤ z := by
  have unpack {a b : Float} : a ≤ b ↔ a.toModel.unpack.le b.toModel.unpack = true := by
    change a.le b = true ↔ _
    rw [Float.le, decide_eq_true_iff]
    rfl
  rw [unpack] at *
  exact unpackedLE_trans xy yz

end WordStrip.Number
