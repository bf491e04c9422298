import Mathlib.Data.Rat.Floor
import PageAudit.Proofs.Number.Rounding
/-!
Rounding keeps the order of numbers, and rounding once more changes nothing. The grids of two
numbers may differ; then a power of two lies between them that is on both. A number is moved by half
a unit of its last place, which is its 2^53-rd part at most; shares of counts lie further apart.
-/
namespace PageAudit.Number

theorem powerOnGrid {q : Rat} {e : Int} (coarse : max (exponent q - 52) (-1074) ≤ e) :
    OnGrid q (2 ^ e) := by
  refine ⟨2 ^ (e - max (exponent q - 52) (-1074)).toNat, ?_⟩
  rw [unit, pow2Power]
  push_cast
  rw [← zpow_natCast 2 (Int.toNat _), ← zpow_add₀ (by norm_num), Int.toNat_of_nonneg (by omega),
    sub_add_cancel]

theorem nearestSign (q : Rat) : (0 ≤ q → 0 ≤ nearest q) ∧ (q ≤ 0 → nearest q ≤ 0) :=
  ⟨gridBelow ⟨0, by simp⟩, gridAbove ⟨0, by simp⟩⟩

theorem roundEvenMono {x y : Rat} (le : x ≤ y) : roundEven x ≤ roundEven y := by
  by_cases apart : x.floor + 1 ≤ y.floor
  · have up : roundEven x ≤ x.floor + 1 := roundEvenAtMost (Rat.lt_floor_add_one x).le
    have down : y.floor ≤ roundEven y := roundEvenAtLeast (Rat.floor_le y)
    omega
  · have floors : x.floor ≤ y.floor := Rat.floor_monotone le
    have same : x.floor = y.floor := by omega
    simp only [roundEven, same]
    split_ifs <;> first | omega | (exfalso; linarith)

theorem unitNeg (q : Rat) : unit (-q) = unit q := by simp [unit, exponent, sizeAbs]

theorem OnGrid.neg {q g : Rat} (grid : OnGrid q g) : OnGrid q (-g) := by
  obtain ⟨n, rfl⟩ := grid
  exact ⟨-n, by push_cast; ring⟩

/- Two numbers with last places of their own have a power of two between them, which is on both
grids. -/
theorem gridBetween {p q : Rat} (nonzero : p ≠ 0) (le : |p| ≤ |q|) (units : unit p ≠ unit q) :
    ∃ g, OnGrid p g ∧ OnGrid q g ∧ |p| ≤ g ∧ g ≤ |q| := by
  have other : q ≠ 0 := abs_pos.mp ((abs_pos.mpr nonzero).trans_le le)
  obtain ⟨pLow, pHigh⟩ := exponentBounds nonzero
  obtain ⟨qLow, qHigh⟩ := exponentBounds other
  have order : exponent p < exponent q + 1 := by
    rw [← zpow_lt_zpow_iff_right₀ (show (1 : Rat) < 2 by norm_num)]
    exact pLow.trans_lt (le.trans_lt qHigh)
  have places : max (exponent p - 52) (-1074) ≠ max (exponent q - 52) (-1074) := by
    intro same
    exact units (by rw [unit, unit, same])
  have below : |p| ≤ 2 ^ exponent q :=
    pHigh.le.trans (zpow_le_zpow_right₀ (by norm_num) (by omega))
  exact ⟨2 ^ exponent q, powerOnGrid (by omega), powerOnGrid (by omega), below, qLow⟩

theorem nearestMonoGrid {p q : Rat} (units : unit p = unit q) (le : p ≤ q) (pNonzero : p ≠ 0)
    (qNonzero : q ≠ 0) : nearest p ≤ nearest q := by
  rw [nearest, nearest, if_neg pNonzero, if_neg qNonzero, units]
  have quotients : p / unit q ≤ q / unit q :=
    div_le_div_of_nonneg_right le (unitPositive q).le
  have rounded := roundEvenMono quotients
  exact mul_le_mul_of_nonneg_right (by exact_mod_cast rounded) (unitPositive q).le

theorem nearestMono {p q : Rat} (le : p ≤ q) : nearest p ≤ nearest q := by
  rcases le_or_gt p 0 with pLow | pHigh
  · rcases le_or_gt 0 q with qHigh | qLow
    · exact ((nearestSign p).2 pLow).trans ((nearestSign q).1 qHigh)
    · by_cases units : unit p = unit q
      · exact nearestMonoGrid units le (le.trans_lt qLow).ne qLow.ne
      · have sizes : |q| ≤ |p| := by rw [abs_of_neg qLow, abs_of_nonpos pLow]; linarith
        obtain ⟨g, qGrid, pGrid, qg, gp⟩ := gridBetween qLow.ne sizes (Ne.symm units)
        rw [abs_of_neg qLow] at qg
        rw [abs_of_nonpos pLow] at gp
        exact (gridAbove pGrid.neg (by linarith)).trans (gridBelow qGrid.neg (by linarith))
  · have qHigh := pHigh.trans_le le
    by_cases units : unit p = unit q
    · exact nearestMonoGrid units le pHigh.ne' qHigh.ne'
    · have sizes : |p| ≤ |q| := by rwa [abs_of_pos pHigh, abs_of_pos qHigh]
      obtain ⟨g, pGrid, qGrid, pg, gq⟩ := gridBetween pHigh.ne' sizes units
      rw [abs_of_pos pHigh] at pg
      rw [abs_of_pos qHigh] at gq
      exact (gridAbove pGrid pg).trans (gridBelow qGrid gq)

theorem nearestOnGrid (q : Rat) : OnGrid (nearest q) (nearest q) := by
  by_cases zero : nearest q = 0
  · exact ⟨0, by rw [zero]; simp⟩
  · have nonzero : q ≠ 0 := by rintro rfl; exact zero nearestZero
    have top : OnGrid q (2 ^ max (exponent q + 1) (-1074)) := powerOnGrid (by omega)
    have size : |q| ≤ 2 ^ max (exponent q + 1) (-1074) :=
      (exponentBounds nonzero).2.le.trans (zpow_le_zpow_right₀ (by norm_num) (le_max_left _ _))
    have rounded : |nearest q| ≤ 2 ^ max (exponent q + 1) (-1074) := by
      rw [abs_le] at size ⊢
      exact ⟨gridBelow top.neg size.1, gridAbove top size.2⟩
    obtain ⟨low, -⟩ := exponentBounds zero
    by_cases finer : max (exponent (nearest q) - 52) (-1074) ≤ max (exponent q - 52) (-1074)
    · have coarse : OnGrid (nearest q) (unit q) := by
        rw [unit, pow2Power]
        exact powerOnGrid finer
      obtain ⟨k, place⟩ := coarse
      refine ⟨roundEven (q / unit q) * k, ?_⟩
      rw [Int.cast_mul, mul_assoc, ← place]
      exact if_neg nonzero
    -- The number was rounded up to the next power of two, whose last place is coarser.
    · have order : exponent (nearest q) < max (exponent q + 1) (-1074) + 1 := by
        rw [← zpow_lt_zpow_iff_right₀ (show (1 : Rat) < 2 by norm_num)]
        exact low.trans_lt (rounded.trans_lt (zpow_lt_zpow_right₀ (by norm_num) (by omega)))
      have power : max (exponent q + 1) (-1074) = exponent (nearest q) := by omega
      have grid : OnGrid (nearest q) (2 ^ exponent (nearest q)) := powerOnGrid (by omega)
      rw [power] at rounded
      rw [le_antisymm low rounded] at grid
      rcases abs_choice (nearest q) with same | opposite
      · rwa [same] at grid
      · rw [opposite] at grid
        simpa using grid.neg

theorem nearestNeg {q : Rat} (fixed : nearest q = q) : nearest (-q) = -q := by
  have grid := nearestOnGrid q
  rw [fixed] at grid
  have opposite : OnGrid (-q) (-q) := by
    rw [OnGrid, unitNeg]
    exact grid.neg
  exact le_antisymm (gridAbove opposite le_rfl) (gridBelow opposite le_rfl)

theorem nearestFixed (q : Rat) : nearest (nearest q) = nearest q :=
  le_antisymm (gridAbove (nearestOnGrid q) le_rfl) (gridBelow (nearestOnGrid q) le_rfl)

theorem roundEvenError (x : Rat) : |(roundEven x : Rat) - x| ≤ 1 / 2 := by
  have low := Rat.floor_le x
  have high := Rat.lt_floor_add_one x
  push_cast at high
  rw [abs_le]
  simp only [roundEven]
  split_ifs
  all_goals
    push_cast
    constructor <;> linarith

theorem unitAtMost {q : Rat} (normal : 2 ^ (-1022 : Int) ≤ |q|) : unit q ≤ |q| / 2 ^ 52 := by
  have nonzero : q ≠ 0 := abs_pos.mp ((zpow_pos (by norm_num) _).trans_le normal)
  obtain ⟨low, high⟩ := exponentBounds nonzero
  have coarse : (-1022 : Int) < exponent q + 1 := by
    rw [← zpow_lt_zpow_iff_right₀ (show (1 : Rat) < 2 by norm_num)]
    exact normal.trans_lt high
  rw [unit, pow2Power, max_eq_left (by omega), zpow_sub₀ (by norm_num), zpow_ofNat]
  exact div_le_div_of_nonneg_right low (by norm_num)

theorem unitAbove {q : Rat} (nonzero : q ≠ 0) : |q| / 2 ^ 53 < unit q := by
  obtain ⟨-, high⟩ := exponentBounds nonzero
  have fine : (2 : Rat) ^ (exponent q + 1) / 2 ^ 53 ≤ unit q := by
    rw [unit, pow2Power, ← zpow_ofNat, ← zpow_sub₀ (by norm_num)]
    exact zpow_le_zpow_right₀ (by norm_num) (by omega)
  exact (div_lt_div_of_pos_right high (by norm_num)).trans_le fine

theorem nearestPlaced (q : Rat) : OnGrid q (nearest q) := by
  by_cases zero : q = 0
  · exact ⟨0, by rw [zero, nearestZero, Int.cast_zero, zero_mul]⟩
  · exact ⟨roundEven (q / unit q), if_neg zero⟩

theorem nearestHalf (q : Rat) : |nearest q - q| ≤ unit q / 2 := by
  have positive := unitPositive q
  by_cases zero : q = 0
  · rw [zero, nearestZero, sub_zero, abs_zero]
    exact (half_pos (unitPositive 0)).le
  · have counted : nearest q - q = (roundEven (q / unit q) - q / unit q) * unit q := by
      rw [nearest, if_neg zero, sub_mul, div_mul_cancel₀ q positive.ne']
    rw [counted, abs_mul, abs_of_pos positive]
    linarith [mul_le_mul_of_nonneg_right (roundEvenError (q / unit q)) positive.le]

theorem nearestError {q : Rat} (normal : q = 0 ∨ 2 ^ (-1022 : Int) ≤ |q|) :
    |nearest q - q| ≤ |q| / 2 ^ 53 := by
  rcases normal with rfl | normal
  · rw [nearestZero]
    norm_num
  · linarith [nearestHalf q, unitAtMost normal]

theorem nearestNear {q : Rat} (nonnegative : 0 ≤ q) (normal : q = 0 ∨ 2 ^ (-1022 : Int) ≤ q) :
    q - q / 2 ^ 53 ≤ nearest q ∧ nearest q ≤ q + q / 2 ^ 53 := by
  have error := nearestError (normal.imp_right fun le => le.trans (le_abs_self q))
  rw [abs_of_nonneg nonnegative, abs_le] at error
  constructor <;> linarith

theorem gridGap {q g h : Rat} (left : OnGrid q g) (right : OnGrid q h) (less : g < h) :
    g + unit q ≤ h := by
  obtain ⟨n, rfl⟩ := left
  obtain ⟨m, rfl⟩ := right
  have positive := unitPositive q
  have order : n + 1 ≤ m := by
    rw [mul_lt_mul_iff_left₀ positive] at less
    exact_mod_cast less
  calc n * unit q + unit q = ((n + 1 : Int) : Rat) * unit q := by push_cast; ring
    _ ≤ m * unit q := mul_le_mul_of_nonneg_right (by exact_mod_cast order) positive.le

theorem nearestSnaps {q g : Rat} (grid : OnGrid q g) (close : |g - q| < unit q / 2) :
    nearest q = g := by
  have half := nearestHalf q
  rw [abs_lt] at close
  rw [abs_le] at half
  refine le_antisymm (not_lt.mp fun above => ?_) (not_lt.mp fun below => ?_)
  · linarith [gridGap grid (nearestPlaced q) above]
  · linarith [gridGap (nearestPlaced q) grid below]

end PageAudit.Number
