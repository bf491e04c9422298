import Mathlib.Tactic.Linarith
import PageAudit.Proofs.Number.Double
import PageAudit.Proofs.Number.Half
/-!
Where one half more is too much. A double and a half have a sum that is a double too, or one that is
rounded without reaching the next whole number; that is so but for the double below one half and for
the odd numbers from 2^52 to 2^53, whose sums are ties.
-/
namespace PageAudit.Number

inductive Carried : Rat → Prop
  | belowHalf : Carried (1 / 2 - 1 / 2 ^ 54)
  | odd {n : Int} (odd : n % 2 = 1) (large : 2 ^ 52 < |n|) (small : |n| < 2 ^ 53) : Carried n

section
variable {p q g v : Rat} {e : Int} {n : Int}

theorem exponentMono (nonzero : p ≠ 0) (le : |p| ≤ |q|) : exponent p ≤ exponent q := by
  have other : q ≠ 0 := abs_pos.mp ((abs_pos.mpr nonzero).trans_le le)
  have less : (2 : Rat) ^ exponent p < 2 ^ (exponent q + 1) :=
    (exponentBounds nonzero).1.trans_lt (le.trans_lt (exponentBounds other).2)
  rw [zpow_lt_zpow_iff_right₀ (by norm_num)] at less
  omega

theorem exponentAtLeast (large : (2 : Rat) ^ e ≤ |q|) : e ≤ exponent q := by
  have nonzero : q ≠ 0 := abs_pos.mp ((zpow_pos (by norm_num) e).trans_le large)
  have less := large.trans_lt (exponentBounds nonzero).2
  rw [zpow_lt_zpow_iff_right₀ (by norm_num)] at less
  omega

theorem exponentBelow (nonzero : q ≠ 0) (small : |q| < (2 : Rat) ^ e) : exponent q < e := by
  have less := (exponentBounds nonzero).1.trans_lt small
  rwa [zpow_lt_zpow_iff_right₀ (by norm_num)] at less

theorem halfFloor (n : Int) : ((n : Rat) + 1 / 2).floor = n :=
  floorExactly (by linarith) (by linarith)

theorem largeWhole (fixed : nearest v = v) (large : 2 ^ 52 ≤ |v|) : ∃ n : Int, v = n := by
  obtain ⟨m, place⟩ := ownGrid fixed
  have order : (52 : Int) ≤ exponent v := exponentAtLeast (by exact_mod_cast large)
  obtain ⟨k, power⟩ := Int.eq_ofNat_of_zero_le (show 0 ≤ exponent v - 52 by omega)
  refine ⟨m * 2 ^ k, ?_⟩
  rw [unit, pow2Power, max_eq_left (by omega), power, zpow_natCast] at place
  push_cast
  exact place

theorem halfNonzero (n : Int) : (n : Rat) + 1 / 2 ≠ 0 := by
  intro zero
  have twice : ((2 * n + 1 : Int) : Rat) = 0 := by
    push_cast
    linarith
  have odd : 2 * n + 1 = 0 := by exact_mod_cast twice
  omega

theorem wholeOrder (other : n ≠ 0) :
    exponent ((n : Rat) + 1 / 2) ≤ exponent n := by
  rcases lt_or_gt_of_ne other with negative | positive
  · have below : (n : Rat) ≤ -1 := by exact_mod_cast (show n ≤ -1 by omega)
    refine exponentMono (halfNonzero n) ?_
    rw [abs_of_neg (by linarith), abs_of_neg (by linarith)]
    linarith
  · exact exponentKept (n := n) (by omega) le_rfl (by linarith)

theorem roundEvenHalf (n : Int) :
    roundEven ((n : Rat) + 1 / 2) = if n % 2 = 0 then n else n + 1 := by
  simp only [roundEven, halfFloor]
  norm_num

/- From 2^52 to 2^53 the last place is one, so a half more is a tie. -/
theorem wholeTie (low : 2 ^ 52 ≤ |(n : Rat) + 1 / 2|) (high : |(n : Rat) + 1 / 2| < 2 ^ 53) :
    nearest ((n : Rat) + 1 / 2) = if n % 2 = 0 then n else n + 1 := by
  have least : (52 : Int) ≤ exponent ((n : Rat) + 1 / 2) :=
    exponentAtLeast (by exact_mod_cast low)
  have most : exponent ((n : Rat) + 1 / 2) < 53 :=
    exponentBelow (halfNonzero n) (by exact_mod_cast high)
  have place : exponent ((n : Rat) + 1 / 2) = 52 := by omega
  have one : unit ((n : Rat) + 1 / 2) = 1 := by
    rw [unit, pow2Power, place]
    rfl
  rw [nearest, if_neg (halfNonzero n), one, div_one, mul_one, roundEvenHalf]

/- From 2^53 on a half is less than half of the last place. -/
theorem wholeSnaps (fixed : nearest n = n) (high : 2 ^ 53 ≤ |(n : Rat) + 1 / 2|) :
    nearest ((n : Rat) + 1 / 2) = n := by
  have other : n ≠ 0 := by
    rintro rfl
    norm_num at high
  have order : (53 : Int) ≤ exponent ((n : Rat) + 1 / 2) :=
    exponentAtLeast (by exact_mod_cast high)
  have two : (2 : Rat) ≤ unit ((n : Rat) + 1 / 2) := by
    rw [unit, pow2Power]
    calc (2 : Rat) = 2 ^ (1 : Int) := (zpow_one 2).symm
      _ ≤ 2 ^ max (exponent ((n : Rat) + 1 / 2) - 52) (-1074) :=
          zpow_le_zpow_right₀ (by norm_num) (by omega)
  refine nearestSnaps ((ownGrid fixed).finer (wholeOrder other)) ?_
  rw [abs_lt]
  constructor <;> linarith

theorem tieRange (odd : n % 2 = 1) : (2 ^ 52 ≤ |(n : Rat) + 1 / 2| ∧ |(n : Rat) + 1 / 2| < 2 ^ 53) ↔
    2 ^ 52 < |n| ∧ |n| < 2 ^ 53 := by
  have doubled : (n : Rat) + 1 / 2 = ((2 * n + 1 : Int) : Rat) / 2 := by
    push_cast
    ring
  have twice : |(n : Rat) + 1 / 2| = ((|2 * n + 1| : Int) : Rat) / 2 := by
    rw [doubled, abs_div, Int.cast_abs]
    norm_num
  have low : (2 : Rat) ^ 52 ≤ |(n : Rat) + 1 / 2| ↔ 2 ^ 53 ≤ |2 * n + 1| := by
    rw [twice, le_div_iff₀ (by norm_num)]
    norm_num
    exact_mod_cast Iff.rfl
  have high : |(n : Rat) + 1 / 2| < 2 ^ 53 ↔ |2 * n + 1| < 2 ^ 54 := by
    rw [twice, div_lt_iff₀ (by norm_num)]
    norm_num
    exact_mod_cast Iff.rfl
  rw [low, high, le_abs, abs_lt, lt_abs, abs_lt]
  omega

theorem wholeKept (fixed : nearest n = n) (plain : ¬Carried n) : roundHalfUp n = n := by
  by_cases low : 2 ^ 52 ≤ |(n : Rat) + 1 / 2|
  · by_cases high : |(n : Rat) + 1 / 2| < 2 ^ 53
    · have even : n % 2 = 0 := by
        by_contra other
        have odd : n % 2 = 1 := by omega
        obtain ⟨large, small⟩ := (tieRange odd).mp ⟨low, high⟩
        exact plain (.odd odd large small)
      rw [roundHalfUp, wholeTie low high, if_pos even, Rat.floor_intCast]
    · rw [roundHalfUp, wholeSnaps fixed (not_lt.mp high), Rat.floor_intCast]
  · by_cases other : n = 0
    · subst other
      decide +kernel
    · rw [roundHalfUp, sumKept fixed (wholeOrder other) (not_le.mp low), halfFloor]

theorem exponentExactly (low : (2 : Rat) ^ e ≤ |q|) (high : |q| < (2 : Rat) ^ (e + 1)) :
    exponent q = e := by
  have nonzero : q ≠ 0 := abs_pos.mp ((zpow_pos (by norm_num) e).trans_le low)
  have least := exponentAtLeast low
  have most := exponentBelow nonzero high
  omega

theorem unitOnGrid (q : Rat) : OnGrid q (unit q) := ⟨1, by simp⟩

theorem nextToHalf (fixed : nearest v = v) (plain : ¬Carried v) (high : v < 1 / 2) :
    v ≤ 1 / 2 - 1 / 2 ^ 53 := by
  by_cases quarter : v < 1 / 4
  · linarith
  have least := not_lt.mp quarter
  have size : |v| = v := abs_of_pos (by linarith)
  have place : exponent v = -2 := by
    refine exponentExactly ?_ ?_
    · rw [size]
      norm_num
      exact least
    · rw [size]
      norm_num
      exact high
  have last : unit v = 1 / 2 ^ 54 := by
    rw [unit, pow2Power, place]
    norm_num
  have half : OnGrid v (1 / 2) := by
    simpa using halfOnGrid (q := v) (by linarith) (by rw [size]; linarith) 1
  -- Below one half on its own grid, a double is at least one last place away from it.
  have before := gridGap (ownGrid fixed) half high
  have other : v ≠ 1 / 2 - unit v := by
    rintro same
    rw [last] at same
    exact plain (same ▸ .belowHalf)
  -- It is not the one next to one half, so there is another last place between.
  have earlier := gridGap (ownGrid fixed) (half.sub (unitOnGrid v))
    (lt_of_le_of_ne (by linarith) other)
  rw [last] at earlier
  linarith

theorem sumBelowOne (fixed : nearest v = v) (plain : ¬Carried v) (low : 0 < v) (high : v < 1 / 2) :
    nearest (v + 1 / 2) < 1 := by
  have size : |v + 1 / 2| = v + 1 / 2 := abs_of_pos (by linarith)
  have place : exponent (v + 1 / 2) = -1 := by
    refine exponentExactly ?_ ?_
    · rw [size]
      norm_num
      exact low.le
    · rw [size]
      norm_num
      linarith
  have last : unit (v + 1 / 2) = 1 / 2 ^ 53 := by
    rw [unit, pow2Power, place]
    norm_num
  have one : OnGrid (v + 1 / 2) 1 := by
    simpa using halfOnGrid (q := v + 1 / 2) (by linarith) (by rw [size]; linarith) 2
  have limit := nextToHalf fixed plain high
  have rounded := gridAbove (one.sub (unitOnGrid _)) (by rw [last]; linarith)
  linarith [unitPositive (v + 1 / 2)]

/- Between a half behind a whole number and the next one, the sum is either kept or, next to zero,
too small to reach the next one. -/
theorem behindHalf (fixed : nearest v = v) (plain : ¬Carried v) (small : |v + 1 / 2| < 2 ^ 52)
    (low : (n : Rat) < v) (high : v < n + 1 / 2) : nearest (v + 1 / 2) < n + 1 := by
  rcases lt_trichotomy n 0 with negative | rfl | positive
  · have below : (n : Rat) ≤ -1 := by exact_mod_cast (show n ≤ -1 by omega)
    have order : exponent (v + 1 / 2) ≤ exponent v := by
      refine exponentMono (by linarith) ?_
      rw [abs_of_neg (by linarith), abs_of_neg (by linarith)]
      linarith
    rw [sumKept fixed order small]
    linarith
  · rw [Int.cast_zero, zero_add] at high ⊢
    rw [Int.cast_zero] at low
    exact sumBelowOne fixed plain low high
  · rw [sumKept fixed (exponentKept (by omega) low.le high) small]
    linarith

theorem fractionKept (fixed : nearest v = v) (plain : ¬Carried v) (small : |v + 1 / 2| < 2 ^ 52) :
    roundHalfUp v = (v + 1 / 2).floor := by
  by_cases zero : v + 1 / 2 = 0
  · rw [roundHalfUp, zero, nearestZero]
  have below := Rat.floor_le (v + 1 / 2)
  have above := Rat.lt_floor_add_one (v + 1 / 2)
  push_cast at above
  generalize (v + 1 / 2).floor = n at below above
  refine roundHalfUpExactly ?_ ?_
  · have whole := halfOnGrid zero small (2 * n)
    push_cast at whole
    exact gridBelow (by simpa using whole) below
  · by_cases first : v ≤ n
    · have half := halfOnGrid zero small (2 * n + 1)
      push_cast at half
      have rounded := gridAbove half (by linarith)
      linarith
    · exact behindHalf fixed plain small (not_le.mp first) (by linarith)

/- The half that is missing leads to the first number whose last place is one. -/
theorem placeReached (low : 2 ^ 52 ≤ v + 1 / 2) (high : v < 2 ^ 52) :
    roundHalfUp v = (v + 1 / 2).floor := by
  have size : |v + 1 / 2| = v + 1 / 2 := abs_of_pos (by linarith)
  have place : exponent (v + 1 / 2) = 52 := by
    refine exponentExactly ?_ ?_
    · rw [size]
      exact_mod_cast low
    · rw [size]
      norm_num
      linarith
  have last : unit (v + 1 / 2) = 1 := by
    rw [unit, pow2Power, place]
    rfl
  have power : OnGrid (v + 1 / 2) ((2 ^ 52 : Int) : Rat) := ⟨2 ^ 52, by rw [last, mul_one]⟩
  have close : |((2 ^ 52 : Int) : Rat) - (v + 1 / 2)| < unit (v + 1 / 2) / 2 := by
    rw [last, abs_lt]
    push_cast
    constructor <;> linarith
  have floor : (v + 1 / 2).floor = 2 ^ 52 := by
    refine floorExactly ?_ ?_
    · exact_mod_cast low
    · push_cast
      linarith
  rw [roundHalfUp, nearestSnaps power close, Rat.floor_intCast, floor]

theorem plainRounded (fixed : nearest v = v) (plain : ¬Carried v) :
    roundHalfUp v = (v + 1 / 2).floor := by
  by_cases large : 2 ^ 52 ≤ |v|
  · obtain ⟨n, rfl⟩ := largeWhole fixed large
    rw [wholeKept fixed plain, halfFloor]
  · obtain ⟨above, below⟩ := abs_lt.mp (not_le.mp large)
    by_cases reached : 2 ^ 52 ≤ v + 1 / 2
    · exact placeReached reached below
    · refine fractionKept fixed plain (abs_lt.mpr ⟨?_, not_le.mp reached⟩)
      linarith

theorem carriedRounded (carried : Carried v) : roundHalfUp v = (v + 1 / 2).floor + 1 := by
  cases carried with
  | belowHalf => decide +kernel
  | @odd n odd large small =>
    obtain ⟨low, high⟩ := (tieRange odd).mpr ⟨large, small⟩
    rw [roundHalfUp, wholeTie low high, if_neg (by omega), Rat.floor_intCast, halfFloor]

theorem carriedFar (v : Rat) : |((v + 1 / 2).floor : Rat) - v| ≤ 1 / 2 ∧
    1 / 2 < |(((v + 1 / 2).floor + 1 : Int) : Rat) - v| := by
  have below := Rat.floor_le (v + 1 / 2)
  have above := Rat.lt_floor_add_one (v + 1 / 2)
  push_cast at above ⊢
  rw [abs_le, lt_abs]
  exact ⟨⟨by linarith, by linarith⟩, .inl (by linarith)⟩

/- A half more, rounded, is the exact one for every double that is not carried, and one too many for
those that are. -/
theorem roundedUnlessCarried {x : Double} (value : x.value? = some v) (exact : x.Exact) :
    x.roundHalfUp = .ok (roundHalfUp v) ∧
    (roundHalfUp v = (v + 1 / 2).floor ↔ ¬Carried v) ∧
    (Carried v → roundHalfUp v = (v + 1 / 2).floor + 1) ∧
    (|(roundHalfUp v : Rat) - v| ≤ 1 / 2 ↔ ¬Carried v) ∧
    ∀ n : Int, v = n → (roundHalfUp v = n ↔ ¬Carried v) := by
  have rounded : x.roundHalfUp = .ok (roundHalfUp v) := by
    cases x with
    | finite w => exact congrArg _ (congrArg _ (Option.some.inj value))
    | negativeZero => exact congrArg _ (congrArg _ (Option.some.inj value))
    | infinite negative => cases value
    | nan => cases value
  obtain ⟨fixed, -⟩ := (exact v value).nearest value
  obtain ⟨near, far⟩ := carriedFar v
  by_cases carried : Carried v
  · have up := carriedRounded carried
    refine ⟨rounded, ?_, fun _ => up, ?_, ?_⟩
    · rw [up]
      simp [carried]
    · rw [up]
      simpa [carried] using far
    · rintro n rfl
      rw [up, halfFloor]
      simp [carried]
  · have up := plainRounded fixed carried
    refine ⟨rounded, ?_, fun other => absurd other carried, ?_, ?_⟩
    · simp [up, carried]
    · rw [up]
      simpa [carried] using near
    · rintro n rfl
      rw [up, halfFloor]
      simp [carried]

theorem twelveAndHalfRounded :
    (Double.ofRat (25 / 2)).roundHalfUp = .ok 13 ∧ ¬Carried (25 / 2) := by
  have value : (Double.ofRat (25 / 2)).value? = some (25 / 2) := by decide +kernel
  obtain ⟨rounded, exact, -⟩ := roundedUnlessCarried value (Double.ofRatExact _)
  have thirteen : roundHalfUp (25 / 2) = 13 := by decide +kernel
  rw [thirteen] at rounded exact
  exact ⟨rounded, exact.mp (by decide +kernel)⟩

theorem halfOvershoots :
    Double.ofRat (1 / 2 - 1 / 2 ^ 54) = .finite (1 / 2 - 1 / 2 ^ 54) ∧
    (Double.ofRat (1 / 2 - 1 / 2 ^ 54)).roundHalfUp = .ok 1 ∧
    (1 / 2 - 1 / 2 ^ 54 + 1 / 2 : Rat).floor = 0 ∧ (1 / 2 : Rat) < 1 - (1 / 2 - 1 / 2 ^ 54) ∧
    Double.ofRat 4503599627370497 = .finite 4503599627370497 ∧
    (Double.ofRat 4503599627370497).roundHalfUp = .ok 4503599627370498 := by
  decide +kernel

end

end PageAudit.Number
