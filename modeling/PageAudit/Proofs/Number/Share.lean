import PageAudit.Proofs.Number.Half
import PageAudit.Proofs.Number.Order
/-!
Shares against bounds. The quotient of two counts and the double nearest to a bound compare as the
numbers themselves do, and so do a count and a part of another one, ties included. Rounded to an
integer, a half going up, a quotient of counts is the exact one too: it is further from the next
half than both roundings carry it.
-/
namespace PageAudit.Number

section
variable {part whole : Int}

theorem quotientNormal (nonnegative : 0 ≤ part) (positive : 0 < whole) (small : whole < 2 ^ 40) :
    (part : Rat) / whole = 0 ∨ 2 ^ (-1022 : Int) ≤ (part : Rat) / whole := by
  have divisor : (0 : Rat) < whole := by exact_mod_cast positive
  rcases nonnegative.eq_or_lt with rfl | some
  · exact .inl (by rw [Int.cast_zero, zero_div])
  · refine .inr ?_
    have least : (1 : Rat) ≤ part := by exact_mod_cast some
    have most : (whole : Rat) ≤ 2 ^ 40 := by exact_mod_cast small.le
    calc (2 : Rat) ^ (-1022 : Int) ≤ 2 ^ (-40 : Int) :=
          zpow_le_zpow_right₀ (by norm_num) (by norm_num)
      _ = 1 / 2 ^ 40 := by norm_num
      _ ≤ part / whole := div_le_div₀ (by linarith) least divisor most

theorem quotientNear (nonnegative : 0 ≤ part) (positive : 0 < whole) (small : whole < 2 ^ 40) :
    (part : Rat) / whole - part / whole / 2 ^ 53 ≤ ratio part whole ∧
      ratio part whole ≤ part / whole + part / whole / 2 ^ 53 := by
  have divisor : (0 : Rat) < whole := by exact_mod_cast positive
  have dividend : (0 : Rat) ≤ part := by exact_mod_cast nonnegative
  exact nearestNear (div_nonneg dividend divisor.le) (quotientNormal nonnegative positive small)

theorem ratioAbove {num den : Int} (nonnegative : 0 ≤ num) (few : num < 2 ^ 11) (some : 0 < den)
    (short : den < 2 ^ 40) (counted : 0 ≤ part) (positive : 0 < whole) (small : whole < 2 ^ 40) :
    nearest (num / den) < ratio part whole ↔ num * whole < den * part := by
  have divisor : (0 : Rat) < whole := by exact_mod_cast positive
  have base : (0 : Rat) < den := by exact_mod_cast some
  constructor
  · intro above
    by_contra below
    have order : (den : Rat) * part ≤ num * whole := by exact_mod_cast not_lt.mp below
    have quotients : (part : Rat) / whole ≤ num / den := by
      rw [div_le_div_iff₀ divisor base]
      linarith
    exact absurd above (not_lt.mpr (nearestMono quotients))
  · intro apart
    obtain ⟨low, -⟩ := quotientNear counted positive small
    obtain ⟨-, high⟩ := quotientNear nonnegative some short
    change nearest (num / den) ≤ _ at high
    have order : (num : Rat) * whole + 1 ≤ den * part := by exact_mod_cast apart
    have size : (num : Rat) * whole ≤ 2 ^ 51 := by
      have product : num * whole ≤ 2 ^ 11 * 2 ^ 40 :=
        mul_le_mul few.le small.le positive.le (by norm_num)
      norm_num at product ⊢
      exact_mod_cast product
    -- Two different quotients lie apart by one over both divisors.
    have gap : (num : Rat) / den + 1 / (den * whole) ≤ part / whole := by
      rw [div_add_div _ _ base.ne' (mul_pos base divisor).ne',
        div_le_div_iff₀ (by positivity) divisor]
      nlinarith [mul_pos base divisor, mul_pos (mul_pos base divisor) divisor]
    -- Rounding moves both of them by less than that together.
    have room : (num : Rat) / den * 2 < 1 / (den * whole) * (2 ^ 53 - 1) := by
      rw [div_mul_eq_mul_div, div_mul_eq_mul_div, div_lt_div_iff₀ base (mul_pos base divisor)]
      nlinarith [mul_pos base divisor]
    linarith

end

theorem placeFixed {m : Int} {k : Nat} (few : k ≤ 53) (small : |(m : Rat) / 2 ^ k| < 2 ^ (53 - k)) :
    nearest (m / 2 ^ k) = m / 2 ^ k :=
  le_antisymm (nearestAtMost few small le_rfl) (nearestAtLeast few small le_rfl)

section
variable {n k : Nat}

theorem countBelow (small : n < 2 ^ 40) : (n : Rat) < 1099511627776 := by exact_mod_cast small

theorem partSmall (small : n < 2 ^ 40) (factor : Rat) (nonnegative : 0 ≤ factor)
    (most : factor ≤ 1) : |(n : Rat) * factor| < 2 ^ 49 := by
  have below := countBelow small
  have counted : (0 : Rat) ≤ n := n.cast_nonneg
  rw [abs_of_nonneg (mul_nonneg counted nonnegative)]
  have part := mul_le_of_le_one_right counted most
  linarith

theorem countFixed (small : n < 2 ^ 40) : nearest n = n := by
  have bound := partSmall small 1 zero_le_one le_rfl
  rw [mul_one] at bound
  have fixed := placeFixed (m := n) (k := 0) (by norm_num) (by
    norm_num at bound ⊢
    linarith)
  simpa using fixed

theorem scaledCount (small : n < 2 ^ 40) (factor : Rat) :
    scaled n factor = nearest (n * nearest factor) := by
  rw [scaled, countFixed small]

theorem halfFixed : nearest (1 / 2) = 1 / 2 := by decide +kernel

theorem scaledHalf (small : n < 2 ^ 40) : scaled n (1 / 2) < k ↔ n < 2 * k := by
  have bound := partSmall small (1 / 2) (by norm_num) (by norm_num)
  rw [mul_one_div] at bound
  have fixed := placeFixed (m := n) (k := 1) (by norm_num) (by
    norm_num at bound ⊢
    linarith)
  have half : nearest ((n : Rat) * (1 / 2)) = n / 2 := by
    rw [mul_one_div]
    simpa using fixed
  rw [scaledCount small, halfFixed, half, div_lt_iff₀ (by norm_num), mul_comm]
  exact_mod_cast Iff.rfl

theorem fifthsRounded : nearest (4 / 5) = 4 / 5 * (1 + 1 / 2 ^ 54) := by decide +kernel

/- In a tie the product is above the count by a 2^54-th part, which rounding takes away again. -/
theorem fifthsTie (small : n < 2 ^ 40) (tie : 4 * n = 5 * k) : scaled n (4 / 5) = k := by
  have bound := partSmall small (nearest (4 / 5)) (by rw [fifthsRounded]; norm_num)
    (by rw [fifthsRounded]; norm_num)
  have parts : (4 : Rat) * n = 5 * k := by exact_mod_cast tie
  have product : (n : Rat) * nearest (4 / 5) = k + k / 2 ^ 54 := by
    rw [fifthsRounded]
    linarith
  rw [scaledCount small, product]
  rw [product] at bound
  rcases k.eq_zero_or_pos with rfl | some
  · rw [Nat.cast_zero, zero_div, add_zero, nearestZero]
  · have positive : (0 : Rat) < k := by exact_mod_cast some
    have size : (0 : Rat) < k + k / 2 ^ 54 := by positivity
    obtain ⟨m, grid⟩ := unitDivides size.ne' (k := 0) (by norm_num) (bound.trans (by norm_num)) k
    have last := unitAbove size.ne'
    rw [abs_of_pos size] at last
    refine nearestSnaps ⟨m, by simpa using grid⟩ ?_
    rw [sub_add_cancel_left, abs_neg, abs_of_pos (by positivity)]
    linarith

theorem scaledFifths (small : n < 2 ^ 40) : scaled n (4 / 5) ≤ k ↔ 4 * n ≤ 5 * k := by
  have below := countBelow small
  have counted : (0 : Rat) ≤ n := n.cast_nonneg
  have bound := partSmall small (4 / 5 * (1 + 1 / 2 ^ 54)) (by norm_num) (by norm_num)
  rcases lt_trichotomy (4 * n) (5 * k) with less | tie | more
  · refine iff_of_true ?_ less.le
    have order : (4 : Rat) * n + 1 ≤ 5 * k := by exact_mod_cast less
    rw [scaledCount small, fifthsRounded]
    have rounded := nearestAtMost (m := k) (k := 0) (by norm_num) (bound.trans (by norm_num)) (by
      push_cast
      linarith)
    simpa using rounded
  · exact iff_of_true (fifthsTie small tie).le tie.le
  · refine iff_of_false (not_le.mpr ?_) (not_le.mpr more)
    have order : (5 : Rat) * k + 1 ≤ 4 * n := by exact_mod_cast more
    rw [scaledCount small, fifthsRounded]
    have rounded := nearestAtLeast (m := 8 * k + 1) (k := 3) (by norm_num)
      (bound.trans (by norm_num)) (by
        push_cast
        linarith)
    push_cast at rounded
    linarith

theorem tenthsRounded : nearest (3 / 10) = 3 / 10 * (1 - 1 / (3 * 2 ^ 53)) := by decide +kernel

theorem scaledTenths (small : n < 2 ^ 40) : k < scaled n (3 / 10) ↔ 10 * k < 3 * n := by
  have below := countBelow small
  have counted : (0 : Rat) ≤ n := n.cast_nonneg
  have bound := partSmall small (3 / 10 * (1 - 1 / (3 * 2 ^ 53))) (by norm_num)
    (by norm_num)
  rw [scaledCount small, tenthsRounded]
  rcases lt_or_ge (10 * k) (3 * n) with less | most
  · refine iff_of_true ?_ less
    have order : (10 : Rat) * k + 1 ≤ 3 * n := by exact_mod_cast less
    have rounded := nearestAtLeast (m := 16 * k + 1) (k := 4) (by norm_num) bound (by
      push_cast
      linarith)
    push_cast at rounded
    linarith
  · refine iff_of_false (not_lt.mpr ?_) (not_lt.mpr most)
    have order : (3 : Rat) * n ≤ 10 * k := by exact_mod_cast most
    have rounded := nearestAtMost (m := k) (k := 0) (by norm_num) (bound.trans (by norm_num)) (by
      push_cast
      linarith)
    simpa using rounded

end

section
variable {part whole : Int}

theorem halfStep (positive : 0 < whole) : 1 / (2 * whole) * (whole : Rat) = 1 / 2 := by
  have divisor : (0 : Rat) < whole := by exact_mod_cast positive
  rw [div_mul_eq_mul_div, one_mul, div_eq_div_iff (by positivity) (by norm_num)]
  ring

theorem quarterSteps (whole : Int) :
    (1 : Rat) / (2 * whole) = 1 / (4 * whole) + 1 / (4 * whole) := by
  ring

theorem halfUpBounds (part : Int) (positive : 0 < whole) :
    (((2 * part + whole) / (2 * whole) : Int) : Rat) - 1 / 2 ≤ part / whole ∧
      (part : Rat) / whole ≤
        ((2 * part + whole) / (2 * whole) : Int) + 1 / 2 - 1 / (2 * whole) := by
  have divisor : (0 : Rat) < whole := by exact_mod_cast positive
  have low : (2 * part + whole) / (2 * whole) * (2 * whole) ≤ 2 * part + whole :=
    Int.ediv_mul_le _ (by omega)
  have high : 2 * part + whole + 1 ≤ ((2 * part + whole) / (2 * whole) + 1) * (2 * whole) :=
    Int.lt_ediv_add_one_mul_self _ (by omega)
  generalize (2 * part + whole) / (2 * whole) = n at low high ⊢
  have low' : (n : Rat) * (2 * whole) ≤ 2 * part + whole := by exact_mod_cast low
  have high' : (2 : Rat) * part + whole + 1 ≤ (n + 1) * (2 * whole) := by exact_mod_cast high
  constructor
  · rw [le_div_iff₀ divisor]
    linarith
  · rw [div_le_iff₀ divisor, sub_mul, halfStep positive]
    linarith

theorem halfUpSmall (few : part < 2 ^ 47) (positive : 0 < whole) (small : whole < 2 ^ 40) :
    ((2 * part + whole) / (2 * whole) + 1) * whole < 2 ^ 48 := by
  have low : (2 * part + whole) / (2 * whole) * (2 * whole) ≤ 2 * part + whole :=
    Int.ediv_mul_le _ (by omega)
  linarith

theorem quotientError (few : part < 2 ^ 47) (positive : 0 < whole) :
    (part : Rat) / whole / 2 ^ 53 ≤ 1 / (4 * whole) := by
  have divisor : (0 : Rat) < whole := by exact_mod_cast positive
  have limit : (part : Rat) < 140737488355328 := by exact_mod_cast few
  rw [div_div, div_le_div_iff₀ (by positivity) (by positivity)]
  have product := mul_le_mul_of_nonneg_right limit.le divisor.le
  linarith

theorem quotientRounded (nonnegative : 0 ≤ part) (few : part < 2 ^ 47) (positive : 0 < whole)
    (small : whole < 2 ^ 40) :
    roundHalfUp (ratio part whole) = (2 * part + whole) / (2 * whole) := by
  obtain ⟨low, high⟩ := halfUpBounds part positive
  obtain ⟨-, near⟩ := quotientNear nonnegative positive small
  have error := quotientError few positive
  have step := quarterSteps whole
  have least := halfUpSmall few positive small
  generalize (2 * part + whole) / (2 * whole) = n at low high least ⊢
  have divisor : (1 : Rat) ≤ whole := by exact_mod_cast positive
  have limit : (part : Rat) < 140737488355328 := by exact_mod_cast few
  have above : (0 : Rat) ≤ part / whole := div_nonneg (by exact_mod_cast nonnegative) (by linarith)
  have below : (part : Rat) / whole < 2 ^ 47 := by
    rw [div_lt_iff₀ (by linarith)]
    linarith
  have halfway : (n : Rat) - 1 / 2 ≤ ratio part whole := by
    have rounded := nearestAtLeast (m := 2 * n - 1) (k := 1) (by norm_num) (q := part / whole) (by
      rw [abs_of_nonneg above]
      linarith) (by
      push_cast
      linarith)
    push_cast at rounded
    rw [ratio]
    linarith
  exact roundHalfUpClear ((nearestSign _).1 above) positive least halfway (by linarith)

end

end PageAudit.Number
