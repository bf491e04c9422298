import PageAudit.Proofs.Number.Double
import PageAudit.Proofs.Number.Share
/-!
Shares in hundredths. A score is rounded at the one place where it is to be; a percentage is divided
first and multiplied then, and loses a half where the product falls short of it.
-/
namespace PageAudit.Number

/-- The hundredths that a part is of a whole, a half going up, without any other rounding. -/
def hundredths (part whole : Int) : Int := (200 * part + whole) / (2 * whole)

/-- The share ends in a half of a hundredth, and a hundred rounded quotients fall short of it. -/
def HalfLost (part whole : Int) : Prop :=
  2 * whole ∣ 200 * part + whole ∧ nearest (ratio part whole * 100) < 100 * part / whole

def lostHalves : List Int := [14, 28, 56, 57]

section
variable {part whole n : Int}

theorem hundredthsHalfUp (part whole : Int) :
    hundredths part whole = (2 * (100 * part) + whole) / (2 * whole) := by
  rw [hundredths, ← mul_assoc]
  norm_num

theorem hundredthsBounds (part : Int) (positive : 0 < whole) :
    (hundredths part whole : Rat) - 1 / 2 ≤ 100 * part / whole ∧
      100 * part / whole ≤ (hundredths part whole : Rat) + 1 / 2 - 1 / (2 * whole) := by
  have bounds := halfUpBounds (100 * part) positive
  rw [← hundredthsHalfUp] at bounds
  push_cast at bounds
  exact bounds

theorem hundredthsSmall (nonnegative : 0 ≤ part) (few : part < 2 ^ 40) (positive : 0 < whole)
    (small : whole < 2 ^ 40) :
    0 ≤ hundredths part whole ∧ (hundredths part whole + 1) * whole < 2 ^ 48 := by
  have low : hundredths part whole * (2 * whole) ≤ 200 * part + whole :=
    Int.ediv_mul_le _ (by omega)
  refine ⟨Int.ediv_nonneg (by omega) (by omega), ?_⟩
  linarith

/- Four roundings together move the share by less than half its distance from the next half. -/
theorem shareError (few : part < 2 ^ 40) (positive : 0 < whole) :
    100 * (part : Rat) / whole / 2 ^ 51 ≤ 1 / (4 * whole) := by
  have divisor : (0 : Rat) < whole := by exact_mod_cast positive
  have limit : (part : Rat) < 1099511627776 := by exact_mod_cast few
  rw [div_div, div_le_div_iff₀ (by positivity) (by positivity)]
  have product := mul_le_mul_of_nonneg_right limit.le divisor.le
  linarith

theorem shareSmall (nonnegative : 0 ≤ part) (few : part < 2 ^ 40) (positive : 0 < whole) :
    0 ≤ 100 * (part : Rat) / whole ∧ 100 * (part : Rat) / whole < 2 ^ 47 := by
  have divisor : (1 : Rat) ≤ whole := by exact_mod_cast positive
  have dividend : (0 : Rat) ≤ part := by exact_mod_cast nonnegative
  have limit : (part : Rat) < 1099511627776 := by exact_mod_cast few
  refine ⟨by positivity, ?_⟩
  rw [div_lt_iff₀ (by linarith)]
  linarith

theorem scoreHundredths (nonnegative : 0 ≤ part) (few : part < 2 ^ 40) (positive : 0 < whole)
    (small : whole < 2 ^ 40) : score part whole = hundredths part whole := by
  rw [score, if_neg positive.ne', hundredthsHalfUp]
  exact quotientRounded (by omega) (by omega) positive small

theorem productNear (nonnegative : 0 ≤ part) (positive : 0 < whole) (small : whole < 2 ^ 40) :
    100 * (part : Rat) / whole - 100 * part / whole / 2 ^ 51 ≤ nearest (ratio part whole * 100) ∧
      nearest (ratio part whole * 100) ≤ 100 * part / whole + 100 * part / whole / 2 ^ 51 := by
  have divisor : (0 : Rat) < whole := by exact_mod_cast positive
  have dividend : (0 : Rat) ≤ part := by exact_mod_cast nonnegative
  have share : (0 : Rat) ≤ part / whole := by positivity
  obtain ⟨low, high⟩ := quotientNear nonnegative positive small
  have normal : ratio part whole * 100 = 0 ∨ 2 ^ (-1022 : Int) ≤ ratio part whole * 100 := by
    rcases quotientNormal nonnegative positive small with none | some
    · exact .inl (by rw [ratio, none, nearestZero, zero_mul])
    · exact .inr (by linarith)
  obtain ⟨low', high'⟩ := nearestNear (by linarith) normal
  rw [mul_div_assoc]
  constructor <;> linarith

theorem tieShare (positive : 0 < whole) (tie : 200 * part = (2 * n + 1) * whole) :
    (part : Rat) / whole = (2 * n + 1) / 200 := by
  have divisor : (0 : Rat) < whole := by exact_mod_cast positive
  have parts : (200 : Rat) * part = (2 * n + 1) * whole := by exact_mod_cast tie
  rw [div_eq_div_iff divisor.ne' (by norm_num)]
  linarith

theorem tieRatio (positive : 0 < whole) (tie : 200 * part = (2 * n + 1) * whole) :
    ratio part whole = ratio (2 * n + 1) 200 := by
  rw [ratio, tieShare positive tie, ratio]
  push_cast
  rfl

theorem tieHundredths :
    2 * whole ∣ 200 * part + whole ↔
      200 * part = (2 * (hundredths part whole - 1) + 1) * whole := by
  unfold hundredths
  constructor
  · intro divides
    have exact := Int.ediv_mul_cancel divides
    linarith
  · intro exact
    exact ⟨(200 * part + whole) / (2 * whole), by linarith⟩

theorem hundredthsTie (positive : 0 < whole) (tie : 200 * part = (2 * n + 1) * whole) :
    hundredths part whole = n + 1 := by
  have exact : 200 * part + whole = (n + 1) * (2 * whole) := by linarith
  rw [hundredths, exact, Int.mul_ediv_cancel _ (by omega)]

theorem tieLost (positive : 0 < whole) (tie : 200 * part = (2 * n + 1) * whole) :
    HalfLost part whole ↔ nearest (ratio (2 * n + 1) 200 * 100) < (2 * n + 1 : Int) / 2 := by
  have ends : 2 * whole ∣ 200 * part + whole := by
    rw [tieHundredths, hundredthsTie positive tie]
    linarith
  have half : 100 * (part : Rat) / whole = (2 * n + 1 : Int) / 2 := by
    rw [mul_div_assoc, tieShare positive tie]
    push_cast
    linarith
  rw [HalfLost, and_iff_right ends, tieRatio positive tie, half]

theorem halvesLost : ∀ n : Fin 100,
    nearest (ratio (2 * (n.val : Int) + 1) 200 * 100) < (2 * (n.val : Int) + 1 : Int) / 2 ↔
      (n.val : Int) ∈ lostHalves := by
  decide +kernel

theorem halfListed (positive : 0 < whole) (tie : 200 * part = (2 * n + 1) * whole)
    (nonnegative : 0 ≤ n) (within : n < 100) : HalfLost part whole ↔ n ∈ lostHalves := by
  obtain ⟨k, rfl⟩ := Int.eq_ofNat_of_zero_le nonnegative
  rw [tieLost positive tie]
  exact halvesLost ⟨k, by omega⟩

theorem lostWithin (nonnegative : 0 ≤ part) (positive : 0 < whole) (within : part ≤ whole) :
    HalfLost part whole ↔ ∃ n ∈ lostHalves, 200 * part = (2 * n + 1) * whole := by
  constructor
  · intro lost
    have tie := tieHundredths.mp lost.1
    have low : 0 ≤ hundredths part whole - 1 := by
      by_contra negative
      have product : (2 * (hundredths part whole - 1) + 1) * whole ≤ -1 * whole :=
        mul_le_mul_of_nonneg_right (by omega) positive.le
      omega
    have high : hundredths part whole - 1 < 100 := by
      by_contra beyond
      have product : 201 * whole ≤ (2 * (hundredths part whole - 1) + 1) * whole :=
        mul_le_mul_of_nonneg_right (by omega) positive.le
      omega
    exact ⟨_, (halfListed positive tie low high).mp lost, tie⟩
  · rintro ⟨n, listed, tie⟩
    have bounds : ∀ n ∈ lostHalves, 0 ≤ n ∧ n < 100 := by decide
    obtain ⟨low, high⟩ := bounds n listed
    exact (halfListed positive tie low high).mpr listed

theorem percentRounded (positive : 0 < whole) :
    percent part whole = roundHalfUp (nearest (ratio part whole * 100)) := if_neg positive.ne'

theorem productAtMost (nonnegative : 0 ≤ part) (few : part < 2 ^ 40) (positive : 0 < whole)
    (small : whole < 2 ^ 40) :
    nearest (ratio part whole * 100) ≤ hundredths part whole + 1 / 2 - 1 / (4 * whole) := by
  obtain ⟨-, high⟩ := hundredthsBounds part positive
  obtain ⟨-, near⟩ := productNear nonnegative positive small
  have error := shareError few positive
  have step := quarterSteps whole
  linarith

theorem hundredthsApart (positive : 0 < whole) (apart : ¬2 * whole ∣ 200 * part + whole) :
    (hundredths part whole : Rat) - 1 / 2 + 1 / (2 * whole) ≤ 100 * part / whole := by
  have divisor : (0 : Rat) < whole := by exact_mod_cast positive
  have low : hundredths part whole * (2 * whole) < 200 * part + whole := by
    refine lt_of_le_of_ne (Int.ediv_mul_le _ (by omega)) fun same => apart ?_
    exact ⟨hundredths part whole, by linarith⟩
  have low' : (hundredths part whole : Rat) * (2 * whole) + 1 ≤ 200 * part + whole := by
    exact_mod_cast low
  rw [le_div_iff₀ divisor, add_mul, halfStep positive]
  linarith

theorem percentKept (nonnegative : 0 ≤ part) (few : part < 2 ^ 40) (positive : 0 < whole)
    (small : whole < 2 ^ 40) (kept : ¬HalfLost part whole) :
    percent part whole = hundredths part whole := by
  obtain ⟨above, -⟩ := shareSmall nonnegative few positive
  obtain ⟨low, -⟩ := hundredthsBounds part positive
  obtain ⟨near, -⟩ := productNear nonnegative positive small
  have error := shareError few positive
  have halfway : (hundredths part whole : Rat) - 1 / 2 ≤ nearest (ratio part whole * 100) := by
    by_cases tie : 2 * whole ∣ 200 * part + whole
    · exact low.trans (not_lt.mp fun falls => kept ⟨tie, falls⟩)
    · have next := hundredthsApart positive tie
      have step := quarterSteps whole
      have room : (0 : Rat) ≤ 1 / (4 * whole) := by positivity
      linarith
  have sign : 0 ≤ nearest (ratio part whole * 100) := by
    linarith
  rw [percentRounded positive]
  exact roundHalfUpClear sign positive (hundredthsSmall nonnegative few positive small).2 halfway
    (productAtMost nonnegative few positive small)

theorem lostHalf (positive : 0 < whole) (lost : HalfLost part whole) :
    100 * (part : Rat) / whole = hundredths part whole - 1 + 1 / 2 := by
  rw [mul_div_assoc, tieShare positive (tieHundredths.mp lost.1)]
  push_cast
  linarith

theorem lostAboveOne (nonnegative : 0 ≤ part) (few : part < 2 ^ 40) (positive : 0 < whole)
    (lost : HalfLost part whole) : 1 ≤ hundredths part whole - 1 := by
  have above : 0 ≤ hundredths part whole - 1 := by
    obtain ⟨share, -⟩ := shareSmall nonnegative few positive
    rw [lostHalf positive lost] at share
    have some : (0 : Rat) < hundredths part whole := by linarith
    have natural : 0 < hundredths part whole := by exact_mod_cast some
    omega
  rcases above.lt_or_eq with some | none
  · exact some
  · rw [halfListed positive (tieHundredths.mp lost.1) above (by omega), ← none] at lost
    exact absurd lost (by decide)

theorem percentLost (nonnegative : 0 ≤ part) (few : part < 2 ^ 40) (positive : 0 < whole)
    (small : whole < 2 ^ 40) (lost : HalfLost part whole) :
    percent part whole = hundredths part whole - 1 := by
  have divisor : (1 : Rat) ≤ whole := by exact_mod_cast positive
  obtain ⟨least, most⟩ := hundredthsSmall nonnegative few positive small
  obtain ⟨near, -⟩ := productNear nonnegative positive small
  have error := shareError few positive
  have half := lostHalf positive lost
  have quarter : (1 : Rat) / (4 * whole) ≤ 1 / 4 := by
    rw [div_le_div_iff₀ (by positivity) (by norm_num)]
    linarith
  have limit : hundredths part whole - 1 < 2 ^ 48 := by
    have product : hundredths part whole + 1 ≤ (hundredths part whole + 1) * whole :=
      le_mul_of_one_le_right (by omega) positive
    omega
  rw [percentRounded positive]
  refine roundHalfUpKept (nearestFixed _) (lostAboveOne nonnegative few positive lost) limit ?_ ?_
  · push_cast
    linarith
  · push_cast
    linarith [lost.2]

theorem ofRatRoundedUp {q : Rat} (small : |nearest q| < pow2 1024) :
    (Double.ofRat q).roundHalfUp = .ok (roundHalfUp (nearest q)) := by
  unfold Double.ofRat Double.round
  simp only [sizeAbs]
  split_ifs with zero negative large
  · rw [zero]
    rfl
  · rw [zero]
    rfl
  · exact absurd small (not_lt.mpr large)
  · rfl

theorem limitAbove {v : Rat} (nonnegative : 0 ≤ v) (small : v < 2 ^ 48) : |v| < pow2 1024 := by
  rw [abs_of_nonneg nonnegative, pow2Power]
  calc v < 2 ^ (48 : Int) := by rwa [zpow_ofNat]
    _ ≤ 2 ^ (1024 : Int) := zpow_le_zpow_right₀ (by norm_num) (by norm_num)

theorem quotientSmall (nonnegative : 0 ≤ part) (few : part < 2 ^ 47) (positive : 0 < whole) :
    |ratio part whole| < pow2 1024 := by
  have divisor : (1 : Rat) ≤ whole := by exact_mod_cast positive
  have dividend : (0 : Rat) ≤ part := by exact_mod_cast nonnegative
  have limit : (part : Rat) < 140737488355328 := by exact_mod_cast few
  have share : (0 : Rat) ≤ part / whole := by positivity
  have below : (part : Rat) / whole ≤ 140737488355328 := by
    rw [div_le_iff₀ (by linarith)]
    linarith
  refine limitAbove ((nearestSign _).1 share) ?_
  have rounded := nearestAtMost (m := 140737488355328) (k := 0) (q := part / whole) (by norm_num)
    (by
      rw [abs_of_nonneg share]
      linarith) (by
      push_cast
      linarith)
  push_cast at rounded
  rw [ratio]
  linarith

theorem checkedRatioSure (small : |ratio part whole| < pow2 1024) :
    checkedRatio part whole = .ok (ratio part whole) := by
  rw [← sizeAbs] at small
  exact if_neg (not_le.mpr small)

theorem quotientRoundedUp (small : |ratio part whole| < pow2 1024) :
    (Double.ofRat (ratio part whole)).roundHalfUp = .ok (roundHalfUp (ratio part whole)) := by
  have fixed : nearest (ratio part whole) = ratio part whole := nearestFixed _
  rw [ofRatRoundedUp (by rwa [fixed]), fixed]

theorem checkedScoreSure (nonnegative : 0 ≤ part) (few : part < 2 ^ 40) (positive : 0 < whole) :
    checkedScore part whole = .ok (score part whole) := by
  have small : |ratio (100 * part) whole| < pow2 1024 :=
    quotientSmall (by omega) (by omega) positive
  unfold checkedScore score
  rw [if_neg positive.ne', if_neg positive.ne', checkedRatioSure small]
  exact quotientRoundedUp small

theorem checkedPercentSure (nonnegative : 0 ≤ part) (few : part < 2 ^ 40) (positive : 0 < whole)
    (small : whole < 2 ^ 40) : checkedPercent part whole = .ok (percent part whole) := by
  obtain ⟨above, below⟩ := shareSmall nonnegative few positive
  obtain ⟨low, high⟩ := productNear nonnegative positive small
  have quotient : |ratio part whole| < pow2 1024 :=
    quotientSmall nonnegative (by omega) positive
  have product := limitAbove (v := nearest (ratio part whole * 100)) (by linarith) (by linarith)
  unfold checkedPercent percent
  rw [if_neg positive.ne', if_neg positive.ne', checkedRatioSure quotient]
  exact ofRatRoundedUp product

theorem sharesMeasured (nonnegative : 0 ≤ part) (few : part < 2 ^ 40) (positive : 1 ≤ whole)
    (small : whole < 2 ^ 40) :
    checkedPercent part whole = .ok (percent part whole) ∧
    checkedScore part whole = .ok (hundredths part whole) ∧
    (percent part whole = hundredths part whole ↔ ¬HalfLost part whole) ∧
    (HalfLost part whole → percent part whole = hundredths part whole - 1) ∧
    (part ≤ whole →
      (HalfLost part whole ↔ ∃ n ∈ lostHalves, 200 * part = (2 * n + 1) * whole)) := by
  have score := checkedScoreSure nonnegative few positive
  rw [scoreHundredths nonnegative few positive small] at score
  have lost := percentLost nonnegative few positive small
  refine ⟨checkedPercentSure nonnegative few positive small, score, ⟨?_, ?_⟩, lost,
    lostWithin nonnegative positive⟩
  · intro exact lose
    have less := lost lose
    omega
  · exact percentKept nonnegative few positive small

theorem eighthMeasured : checkedPercent 1 8 = .ok 13 := by
  obtain ⟨percent, -, kept, -, halves⟩ :=
    @sharesMeasured 1 8 (by decide) (by decide) (by decide) (by decide)
  rw [percent, kept.mpr (by rw [halves (by decide)]; decide)]
  rfl

theorem halfOfFortyLost :
    checkedPercent 23 40 = .ok 57 ∧ hundredths 23 40 = 58 ∧ checkedScore 23 40 = .ok 58 := by
  decide +kernel

end

structure Graded (passed total score : Int) : Prop where
  exact : score = (200 * passed + total) / (2 * total)
  within : 0 ≤ score ∧ score ≤ 100
  none : score = 0 ↔ 200 * passed < total
  full : score = 100 ↔ 200 * (total - passed) ≤ total

section
variable {passed total : Int}

theorem hundredthsGraded (nonnegative : 0 ≤ passed) (le : passed ≤ total) (positive : 1 ≤ total) :
    Graded passed total (hundredths passed total) := by
  have reached : ∀ k, k ≤ hundredths passed total ↔ k * (2 * total) ≤ 200 * passed + total :=
    fun k => Int.le_ediv_iff_mul_le (by omega)
  have zero := reached 0
  have one := reached 1
  have most := reached 100
  have beyond := reached 101
  exact ⟨rfl, by omega, by omega, by omega⟩

theorem hundredthsMono {more : Int} (positive : 1 ≤ total) (le : passed ≤ more) :
    hundredths passed total ≤ hundredths more total :=
  Int.ediv_le_ediv (by omega) (by omega)

theorem scoreGraded (nonnegative : 0 ≤ passed) (le : passed ≤ total) (positive : 1 ≤ total)
    (small : total < 2 ^ 40) :
    checkedScore passed total = .ok (score passed total) ∧
    Graded passed total (score passed total) ∧
    ∀ more, passed ≤ more → more ≤ total → score passed total ≤ score more total := by
  refine ⟨checkedScoreSure nonnegative (by omega) positive, ?_, ?_⟩
  · rw [scoreHundredths nonnegative (by omega) positive small]
    exact hundredthsGraded nonnegative le positive
  · intro more order within
    rw [scoreHundredths nonnegative (by omega) positive small,
      scoreHundredths (by omega) (by omega) positive small]
    exact hundredthsMono positive order

theorem twoHundredthGraded :
    checkedScore 1 200 = .ok 1 ∧ Graded 1 200 1 ∧ score 1 200 ≤ score 2 200 := by
  have one : score 1 200 = 1 := by decide +kernel
  obtain ⟨checked, graded, mono⟩ :=
    @scoreGraded 1 200 (by decide) (by decide) (by decide) (by decide)
  rw [one] at checked graded
  exact ⟨checked, graded, mono 2 (by decide) (by decide)⟩

end

end PageAudit.Number
