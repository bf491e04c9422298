import Mathlib.Algebra.Order.Field.Power
import Mathlib.Data.Rat.Cast.Order
import Mathlib.Tactic.FieldSimp
import Mathlib.Tactic.Linarith
import Mathlib.Tactic.NormNum
import Mathlib.Tactic.Positivity
import Mathlib.Tactic.Ring
import PageAudit.Number.Binary
/-!
Rounding to 53 bits stays on its side of every point of a coarser grid: a multiple of 2^-k bounds the
rounded number where it bounds the number itself, as long as that is below 2^(53-k). The score needs
no more about rounding than this.
-/
namespace PageAudit.Number

theorem pow2Power (e : Int) : pow2 e = (2 : Rat) ^ e := by
  cases e with
  | ofNat n => simp [pow2, Rat.mkRat_eq_div]
  | negSucc n => simp [pow2, Rat.mkRat_eq_div, zpow_negSucc]

theorem sizeAbs (q : Rat) : size q = |q| := by
  unfold size
  split
  · rename_i negative
    exact (abs_of_neg negative).symm
  · rename_i notNegative
    exact (abs_of_nonneg (not_lt.mp notNegative)).symm

/- The lengths of numerator and denominator leave two candidates for the exponent. -/
theorem sizeNearGuess {q : Rat} (nonzero : q ≠ 0) :
    (2 : Rat) ^ ((q.num.natAbs.log2 : Int) - q.den.log2 - 1) < |q| ∧
      |q| < 2 ^ ((q.num.natAbs.log2 : Int) - q.den.log2 + 1) := by
  have top : q.num.natAbs ≠ 0 := by simpa using nonzero
  have ratio : |q| = (q.num.natAbs : Rat) / q.den := by
    conv_lhs => rw [← Rat.num_div_den q]
    rw [abs_div, Nat.abs_cast, Nat.cast_natAbs, Int.cast_abs]
  have numLow : (2 : Rat) ^ q.num.natAbs.log2 ≤ q.num.natAbs := by
    exact_mod_cast Nat.log2_self_le top
  have numHigh : (q.num.natAbs : Rat) < 2 ^ (q.num.natAbs.log2 + 1) := by
    exact_mod_cast Nat.lt_log2_self
  have denLow : (2 : Rat) ^ q.den.log2 ≤ q.den := by
    exact_mod_cast Nat.log2_self_le q.den_nz
  have denHigh : (q.den : Rat) < 2 ^ (q.den.log2 + 1) := by
    exact_mod_cast Nat.lt_log2_self
  have denPositive : (0 : Rat) < q.den := by exact_mod_cast q.den_pos
  rw [ratio]
  constructor
  · rw [lt_div_iff₀ denPositive]
    -- The denominator lies below the next power of two, the numerator above its own.
    calc (2 : Rat) ^ ((q.num.natAbs.log2 : Int) - q.den.log2 - 1) * q.den
        < 2 ^ ((q.num.natAbs.log2 : Int) - q.den.log2 - 1) * 2 ^ (q.den.log2 + 1) :=
          mul_lt_mul_of_pos_left denHigh (by positivity)
      _ = 2 ^ q.num.natAbs.log2 := by
          rw [← zpow_natCast, ← zpow_natCast, ← zpow_add₀ (by norm_num)]
          congr 1
          push_cast
          ring
      _ ≤ q.num.natAbs := numLow
  · rw [div_lt_iff₀ denPositive]
    calc (q.num.natAbs : Rat) < 2 ^ (q.num.natAbs.log2 + 1) := numHigh
      _ = 2 ^ ((q.num.natAbs.log2 : Int) - q.den.log2 + 1) * 2 ^ q.den.log2 := by
          rw [← zpow_natCast, ← zpow_natCast, ← zpow_add₀ (by norm_num)]
          congr 1
          push_cast
          ring
      _ ≤ 2 ^ ((q.num.natAbs.log2 : Int) - q.den.log2 + 1) * q.den :=
          mul_le_mul_of_nonneg_left denLow (by positivity)

theorem exponentBounds {q : Rat} (nonzero : q ≠ 0) :
    (2 : Rat) ^ exponent q ≤ |q| ∧ |q| < 2 ^ (exponent q + 1) := by
  obtain ⟨low, high⟩ := sizeNearGuess nonzero
  simp only [exponent, pow2Power, sizeAbs]
  split
  · rename_i fits
    exact ⟨fits, high⟩
  · rename_i exceeds
    refine ⟨low.le, ?_⟩
    simpa using not_le.mp exceeds

theorem unitPositive (q : Rat) : 0 < unit q := by
  rw [unit, pow2Power]
  positivity

/- Below 2^(53-k) the last place weighs at most 2^-k, so it divides every multiple of that. -/
theorem unitDivides {q : Rat} {k : Nat} (nonzero : q ≠ 0) (few : k ≤ 53)
    (small : |q| < 2 ^ (53 - k)) (m : Int) : ∃ n : Int, (m : Rat) / 2 ^ k = n * unit q := by
  have below : exponent q < 53 - k := by
    have chain := lt_of_le_of_lt (exponentBounds nonzero).1 small
    rw [← zpow_natCast, zpow_lt_zpow_iff_right₀ (by norm_num)] at chain
    omega
  have fine : max (exponent q - 52) (-1074) ≤ -(k : Int) := by omega
  refine ⟨m * 2 ^ (-(k : Int) - max (exponent q - 52) (-1074)).toNat, ?_⟩
  rw [unit, pow2Power]
  push_cast
  rw [← zpow_natCast 2 (Int.toNat _), mul_assoc, ← zpow_add₀ (by norm_num),
    Int.toNat_of_nonneg (by omega), sub_add_cancel, zpow_neg, zpow_natCast, div_eq_mul_inv]

theorem roundEvenAtLeast {x : Rat} {n : Int} (le : (n : Rat) ≤ x) : n ≤ roundEven x := by
  have floor : n ≤ x.floor := Rat.le_floor_iff.mpr le
  simp only [roundEven]
  split
  · exact floor
  · split
    · omega
    · split
      · exact floor
      · omega

theorem roundEvenAtMost {x : Rat} {n : Int} (le : x ≤ n) : roundEven x ≤ n := by
  have floor : x.floor ≤ n := by exact_mod_cast (Rat.floor_le x).trans le
  -- from one half on, `x` is no integer, so `n` lies above the floor
  have above (half : ¬ x - x.floor < 1 / 2) : x.floor + 1 ≤ n := by
    have strict : (x.floor : Rat) < n := by linarith
    exact_mod_cast strict
  simp only [roundEven]
  split
  · exact floor
  · rename_i half
    split
    · exact above half
    · split
      · exact floor
      · exact above half

def OnGrid (q g : Rat) : Prop := ∃ n : Int, g = n * unit q

theorem nearestZero : nearest 0 = 0 := if_pos rfl

theorem gridAbove {q g : Rat} (grid : OnGrid q g) (le : q ≤ g) : nearest q ≤ g := by
  obtain ⟨n, rfl⟩ := grid
  unfold nearest
  split
  · rename_i zero
    exact zero ▸ le
  · have rounded := roundEvenAtMost ((div_le_iff₀ (unitPositive q)).mpr le)
    exact mul_le_mul_of_nonneg_right (by exact_mod_cast rounded) (unitPositive q).le

theorem gridBelow {q g : Rat} (grid : OnGrid q g) (le : g ≤ q) : g ≤ nearest q := by
  obtain ⟨n, rfl⟩ := grid
  unfold nearest
  split
  · rename_i zero
    exact zero ▸ le
  · have rounded := roundEvenAtLeast ((le_div_iff₀ (unitPositive q)).mpr le)
    exact mul_le_mul_of_nonneg_right (by exact_mod_cast rounded) (unitPositive q).le

theorem nearestAtMost {q : Rat} {k : Nat} {m : Int} (few : k ≤ 53) (small : |q| < 2 ^ (53 - k))
    (le : q ≤ m / 2 ^ k) : nearest q ≤ m / 2 ^ k := by
  by_cases zero : q = 0
  · subst zero
    rwa [nearestZero]
  · exact gridAbove (unitDivides zero few small m) le

theorem nearestAtLeast {q : Rat} {k : Nat} {m : Int} (few : k ≤ 53) (small : |q| < 2 ^ (53 - k))
    (le : m / 2 ^ k ≤ q) : m / 2 ^ k ≤ nearest q := by
  by_cases zero : q = 0
  · subst zero
    rwa [nearestZero]
  · exact gridBelow (unitDivides zero few small m) le

theorem nearestBetween {q : Rat} {low high : Int} (nonnegative : 0 ≤ low) (small : high < 2 ^ 50)
    (above : low / 2 ≤ q) (below : q ≤ high / 2) :
    (low : Rat) / 2 ≤ nearest q ∧ nearest q ≤ high / 2 := by
  have start : (0 : Rat) ≤ low := by exact_mod_cast nonnegative
  have stop : (high : Rat) < 2 ^ 50 := by exact_mod_cast small
  have bound : |q| < 2 ^ (53 - 1) := by
    rw [abs_of_nonneg (by linarith)]
    norm_num at stop ⊢
    linarith
  constructor
  · simpa using nearestAtLeast (k := 1) (by norm_num) bound (by simpa using above)
  · simpa using nearestAtMost (k := 1) (by norm_num) bound (by simpa using below)

/- Half-way points are kept by the rounding of the sum, so the floor stays between the bounds. -/
theorem roundHalfUpBetween {v : Rat} {low high : Int} (nonnegative : 0 ≤ low)
    (small : high < 2 ^ 48) (above : (low : Rat) ≤ v) (below : v ≤ high) :
    low ≤ roundHalfUp v ∧ roundHalfUp v ≤ high := by
  have rounded : ((2 * low + 1 : Int) : Rat) / 2 ≤ nearest (v + 1 / 2) ∧
      nearest (v + 1 / 2) ≤ ((2 * high + 1 : Int) : Rat) / 2 := by
    refine nearestBetween (by omega) (by omega) ?_ ?_
    · push_cast
      linarith
    · push_cast
      linarith
  push_cast at rounded
  unfold roundHalfUp
  constructor
  · rw [Rat.le_floor_iff]
    linarith
  · have next : (nearest (v + 1 / 2)).floor < high + 1 := by
      rw [Rat.floor_lt_iff]
      push_cast
      linarith
    omega

theorem ratioBetween {part whole low high : Int} (positive : 0 < whole) (nonnegative : 0 ≤ low)
    (small : high < 2 ^ 48) (above : low * whole ≤ part) (below : part ≤ high * whole) :
    (low : Rat) ≤ ratio part whole ∧ ratio part whole ≤ high := by
  have divisor : (0 : Rat) < whole := by exact_mod_cast positive
  have exactAbove : (low : Rat) * whole ≤ part := by exact_mod_cast above
  have exactBelow : (part : Rat) ≤ high * whole := by exact_mod_cast below
  have rounded : ((2 * low : Int) : Rat) / 2 ≤ ratio part whole ∧
      ratio part whole ≤ ((2 * high : Int) : Rat) / 2 := by
    refine nearestBetween (by omega) (by omega) ?_ ?_
    · rw [le_div_iff₀ divisor]
      push_cast
      linarith
    · rw [div_le_iff₀ divisor]
      push_cast
      linarith
  push_cast at rounded
  constructor <;> linarith

theorem scoreWithin {passed total : Int} (nonnegative : 0 ≤ passed) (le : passed ≤ total) :
    0 ≤ score passed total ∧ score passed total ≤ 100 := by
  unfold score
  split
  · exact ⟨le_refl _, by norm_num⟩
  · rename_i some
    have share : ((0 : Int) : Rat) ≤ ratio (100 * passed) total ∧
        ratio (100 * passed) total ≤ ((100 : Int) : Rat) :=
      ratioBetween (by omega) (le_refl _) (by norm_num) (by omega) (by omega)
    exact roundHalfUpBetween (le_refl _) (by norm_num) share.1 share.2

theorem wholeRatio {n : Int} (positive : 0 < n) : ratio n n = 1 := by
  have share : ((1 : Int) : Rat) ≤ ratio n n ∧ ratio n n ≤ ((1 : Int) : Rat) :=
    ratioBetween positive (by norm_num) (by norm_num) (by omega) (by omega)
  push_cast at share
  exact le_antisymm share.2 share.1

theorem percentWithin {part whole : Int} (nonnegative : 0 ≤ part) (le : part ≤ whole) :
    0 ≤ percent part whole ∧ percent part whole ≤ 100 := by
  unfold percent
  split
  · exact ⟨le_refl _, by norm_num⟩
  · rename_i some
    have share : ((0 : Int) : Rat) ≤ ratio part whole ∧ ratio part whole ≤ ((1 : Int) : Rat) :=
      ratioBetween (by omega) (le_refl _) (by norm_num) (by omega) (by omega)
    have hundredths : ((0 : Int) : Rat) / 2 ≤ nearest (ratio part whole * 100) ∧
        nearest (ratio part whole * 100) ≤ ((200 : Int) : Rat) / 2 := by
      push_cast at share
      refine nearestBetween (le_refl _) (by norm_num) ?_ ?_
      · push_cast
        linarith
      · push_cast
        linarith
    push_cast at hundredths
    refine roundHalfUpBetween (le_refl _) (by norm_num) ?_ ?_
    · push_cast
      linarith
    · push_cast
      linarith

end PageAudit.Number
