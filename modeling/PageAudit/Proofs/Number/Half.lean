import Mathlib.Tactic.Linarith
import PageAudit.Proofs.Number.Order
/-!
One half more and the floor. The sum is rounded to a double before the floor is taken, and that can
carry it to the next whole number only from where the two are a last place apart.
-/
namespace PageAudit.Number

section
variable {p q g h v : Rat} {n : Int}

theorem floorExactly (low : (n : Rat) ≤ q) (high : q < n + 1) : q.floor = n := by
  have below : q.floor < n + 1 := by
    rw [Rat.floor_lt_iff]
    push_cast
    exact high
  have above : n ≤ q.floor := Rat.le_floor_iff.mpr low
  omega

theorem OnGrid.sub (left : OnGrid q g) (right : OnGrid q h) : OnGrid q (g - h) := by
  obtain ⟨n, rfl⟩ := left
  obtain ⟨m, rfl⟩ := right
  exact ⟨n - m, by push_cast; ring⟩

theorem OnGrid.finer (grid : OnGrid p g) (order : exponent q ≤ exponent p) : OnGrid q g := by
  obtain ⟨n, rfl⟩ := grid
  obtain ⟨m, place⟩ : OnGrid q (unit p) := by
    rw [unit, pow2Power]
    exact powerOnGrid (by omega)
  exact ⟨n * m, by rw [Int.cast_mul, mul_assoc, ← place]⟩

theorem ownGrid (fixed : nearest v = v) : OnGrid v v := by
  have own := nearestOnGrid v
  rwa [fixed] at own

theorem onGridFixed (grid : OnGrid q q) : nearest q = q :=
  le_antisymm (gridAbove grid le_rfl) (gridBelow grid le_rfl)

theorem halfOnGrid (nonzero : q ≠ 0) (small : |q| < 2 ^ 52) (m : Int) : OnGrid q (m / 2) := by
  obtain ⟨n, placed⟩ := unitDivides (k := 1) nonzero (by norm_num) (small.trans_eq (by norm_num)) m
  exact ⟨n, by rw [← placed, pow_one]⟩

end

section
variable {v : Rat} {n : Int}

theorem roundHalfUpExactly (low : (n : Rat) ≤ nearest (v + 1 / 2))
    (high : nearest (v + 1 / 2) < n + 1) : roundHalfUp v = n := floorExactly low high

theorem halfAtLeast (nonnegative : 0 ≤ v) (small : v < 2 ^ 52) (low : (n : Rat) - 1 / 2 ≤ v) :
    (n : Rat) ≤ nearest (v + 1 / 2) := by
  have bound : |v + 1 / 2| < 2 ^ (53 - 0) := by
    rw [abs_of_nonneg (by linarith)]
    linarith
  have rounded := nearestAtLeast (m := n) (by norm_num) bound (by
    rw [pow_zero, div_one]
    linarith)
  rwa [pow_zero, div_one] at rounded

theorem roundHalfUpClear {whole : Int} (nonnegative : 0 ≤ v) (positive : 0 < whole)
    (small : (n + 1) * whole < 2 ^ 48) (low : (n : Rat) - 1 / 2 ≤ v)
    (high : v ≤ n + 1 / 2 - 1 / (4 * whole)) : roundHalfUp v = n := by
  have divisor : (1 : Rat) ≤ whole := by exact_mod_cast positive
  have bound : ((n : Rat) + 1) * whole < 2 ^ 48 := by exact_mod_cast small
  have room : (0 : Rat) < 1 / (4 * whole) := by positivity
  have least : (0 : Rat) ≤ n + 1 := by linarith
  have most : (n : Rat) + 1 < 2 ^ 48 := (le_mul_of_one_le_right least divisor).trans_lt bound
  refine roundHalfUpExactly (halfAtLeast nonnegative (by linarith) low) ?_
  have normal : (2 : Rat) ^ (-1022 : Int) ≤ v + 1 / 2 :=
    calc (2 : Rat) ^ (-1022 : Int) ≤ 2 ^ (-1 : Int) :=
          zpow_le_zpow_right₀ (by norm_num) (by norm_num)
      _ = 1 / 2 := by norm_num
      _ ≤ v + 1 / 2 := by linarith
  obtain ⟨-, near⟩ := nearestNear (by linarith) (.inr normal)
  have error : ((n : Rat) + 1) / 2 ^ 53 < 1 / (4 * whole) := by
    rw [div_lt_div_iff₀ (by norm_num) (by positivity)]
    linarith
  linarith

theorem exponentKept (one : 1 ≤ n) (low : (n : Rat) ≤ v) (high : v < n + 1 / 2) :
    exponent (v + 1 / 2) ≤ exponent v := by
  have first : (1 : Rat) ≤ n := by exact_mod_cast one
  have positive : 0 < v := by linarith
  obtain ⟨sumLow, -⟩ := exponentBounds (show v + 1 / 2 ≠ 0 by linarith)
  obtain ⟨-, vHigh⟩ := exponentBounds positive.ne'
  rw [abs_of_pos positive] at vHigh
  rw [abs_of_pos (by linarith)] at sumLow
  have whole : 0 ≤ exponent v + 1 := by
    by_contra negative
    have tiny : (2 : Rat) ^ (exponent v + 1) ≤ 2 ^ (0 : Int) :=
      zpow_le_zpow_right₀ (by norm_num) (by omega)
    rw [zpow_zero] at tiny
    linarith
  obtain ⟨e, power⟩ := Int.eq_ofNat_of_zero_le whole
  rw [power, zpow_natCast] at vHigh
  have above : n < 2 ^ e := by exact_mod_cast low.trans_lt vHigh
  have reached : (n : Rat) + 1 ≤ 2 ^ e := by exact_mod_cast above
  have less : (2 : Rat) ^ exponent (v + 1 / 2) < 2 ^ (exponent v + 1) := by
    rw [power, zpow_natCast]
    linarith
  rw [zpow_lt_zpow_iff_right₀ (by norm_num)] at less
  omega

theorem sumKept (fixed : nearest v = v) (order : exponent (v + 1 / 2) ≤ exponent v)
    (small : |v + 1 / 2| < 2 ^ 52) : nearest (v + 1 / 2) = v + 1 / 2 := by
  by_cases zero : v + 1 / 2 = 0
  · rw [zero, nearestZero]
  · have half := halfOnGrid zero small (-1)
    have sum := ((ownGrid fixed).finer order).sub half
    refine onGridFixed ?_
    convert sum using 1
    push_cast
    ring

theorem roundHalfUpKept (fixed : nearest v = v) (one : 1 ≤ n) (small : n < 2 ^ 48)
    (low : (n : Rat) ≤ v) (high : v < n + 1 / 2) : roundHalfUp v = n := by
  have first : (1 : Rat) ≤ n := by exact_mod_cast one
  have last : (n : Rat) < 281474976710656 := by exact_mod_cast small
  have bound : |v + 1 / 2| < 2 ^ 52 := by
    rw [abs_of_pos (by linarith)]
    linarith
  rw [roundHalfUp, sumKept fixed (exponentKept one low high) bound]
  exact floorExactly (by linarith) (by linarith)

end

end PageAudit.Number
