import PageAudit.Number.Binary
import PageAudit.Proofs.Number.Order
/-!
Sums and differences of doubles in order. Less is left until a deadline as time goes by, something
is left exactly before it, and a finite time is all that this takes.
-/
namespace PageAudit.Number.Double

/-- The double nearest to a number, the sign of zero apart. -/
inductive Rounds : Double → Rat → Prop
  | finite {x : Double} {q : Rat} (value : x.value? = some (nearest q))
    (small : |nearest q| < pow2 1024) : Rounds x q
  | above {q : Rat} (high : pow2 1024 ≤ nearest q) : Rounds (.infinite false) q
  | below {q : Rat} (low : nearest q ≤ -pow2 1024) : Rounds (.infinite true) q

def Exact (x : Double) : Prop := ∀ v, x.value? = some v → x.Rounds v

theorem limitPositive : 0 < pow2 1024 := by
  rw [pow2Power]
  exact zpow_pos (by norm_num) _

theorem ofRatRounds (q : Rat) : (ofRat q).Rounds q := by
  unfold ofRat round
  simp only [sizeAbs]
  split_ifs with zero negative large
  · exact .finite (by rw [zero]; rfl) (by rw [zero, abs_zero]; exact limitPositive)
  · exact .finite (by rw [zero]; rfl) (by rw [zero, abs_zero]; exact limitPositive)
  · rcases lt_or_ge (nearest q) 0 with low | high
    · rw [abs_of_neg low] at large
      simp only [low, decide_true]
      exact .below (by linarith)
    · rw [abs_of_nonneg high] at large
      simp only [not_lt.mpr high, decide_false]
      exact .above large
  · exact .finite rfl (not_le.mp large)

theorem lessFinite {x y : Double} {a b : Rat} (left : x.value? = some a)
    (right : y.value? = some b) : x.less y = decide (a < b) := by
  cases x <;> cases y <;> simp_all [value?, less]

theorem Rounds.notNan {x : Double} {q : Rat} (rounds : x.Rounds q) : x ≠ .nan := by
  rintro rfl
  cases rounds with
  | finite value small => cases value

theorem atMostLess {x y : Double} (left : x ≠ .nan) (right : y ≠ .nan) :
    x.atMost y = !y.less x := by
  cases x <;> cases y <;> simp_all [atMost]

theorem lessAtMost {x y : Double} (less : x.less y = true) : x.atMost y = true := by
  have bothNumbers : x ≠ .nan ∧ y ≠ .nan := by
    constructor <;> rintro rfl
    · cases less
    · cases x <;> cases less
  rw [atMostLess bothNumbers.1 bothNumbers.2, Bool.not_eq_true']
  cases x <;> cases y <;> simp_all [Double.less, value?] <;>
    exact decide_eq_false (of_decide_eq_true less).not_gt

theorem lessInfinite {x : Double} {v : Rat} (value : x.value? = some v) (negative : Bool) :
    x.less (.infinite negative) = !negative ∧ (infinite negative).less x = negative := by
  cases x <;> simp_all [value?, less]

theorem Rounds.atMost {x y : Double} {p q : Rat} (left : x.Rounds p) (right : y.Rounds q)
    (le : p ≤ q) : x.atMost y = true := by
  have order := nearestMono le
  rw [atMostLess left.notNan right.notNan, Bool.not_eq_true']
  cases left with
  | finite value small =>
    cases right with
    | finite value' small' => rw [lessFinite value' value, decide_eq_false_iff_not]; linarith
    | above high => exact (lessInfinite value false).2
    | below low => linarith [neg_abs_le (nearest p)]
  | above high =>
    cases right with
    | finite value' small' => linarith [le_abs_self (nearest q)]
    | above high' => rfl
    | below low' => linarith [limitPositive]
  | below low =>
    cases right with
    | finite value' small' => exact (lessInfinite value' true).1
    | above high' => rfl
    | below low' => rfl

theorem Rounds.nearest {x : Double} {v : Rat} (rounds : x.Rounds v) (value : x.value? = some v) :
    nearest v = v ∧ |v| < pow2 1024 := by
  cases rounds with
  | finite same small =>
    have v' := Option.some.inj (value.symm.trans same)
    rw [← v'] at small
    exact ⟨v'.symm, small⟩
  | above high => cases value
  | below low => cases value

theorem exactRounds {x : Double} {v : Rat} (value : x.value? = some v)
    (fixed : Number.nearest v = v) (small : |v| < pow2 1024) : x.Rounds v :=
  .finite (by rw [value, fixed]) (by rwa [fixed])

theorem ofRatExact (q : Rat) : (ofRat q).Exact := by
  intro v value
  have rounds := ofRatRounds q
  generalize ofRat q = x at value rounds
  cases rounds with
  | finite same small =>
    obtain rfl := Option.some.inj (value.symm.trans same)
    exact exactRounds value (nearestFixed q) small
  | above high => cases value
  | below low => cases value

theorem subRounds {x y : Double} {a b : Rat} (left : x.value? = some a) (right : y.value? = some b)
    (leftExact : x.Exact) (rightExact : y.Exact) : (x - y).Rounds (a - b) := by
  obtain ⟨fixed, small⟩ := (rightExact b right).nearest right
  change (x.add y.neg).Rounds (a - b)
  cases y with
  | infinite negative => cases right
  | nan => cases right
  | negativeZero =>
    obtain rfl := Option.some.inj right
    cases x with
    | infinite negative => cases left
    | nan => cases left
    | negativeZero =>
      obtain rfl := Option.some.inj left
      rw [sub_zero]
      exact exactRounds rfl nearestZero (by simpa using limitPositive)
    | finite v =>
      obtain rfl := Option.some.inj left
      simpa [neg, add] using ofRatRounds (v + 0)
  | finite w =>
    obtain rfl := Option.some.inj right
    -- A zero is subtracted as the negative zero, so the sum is the number itself and not rounded.
    by_cases zero : w = 0
    · subst zero
      cases x with
      | infinite negative => cases left
      | nan => cases left
      | negativeZero => simpa [neg, add] using leftExact a left
      | finite v => simpa [neg, add] using leftExact a left
    · simp only [neg, zero, if_false]
      cases x with
      | infinite negative => cases left
      | nan => cases left
      | negativeZero =>
        obtain rfl := Option.some.inj left
        rw [zero_sub]
        exact exactRounds rfl (nearestNeg fixed) (by rwa [abs_neg])
      | finite v =>
        obtain rfl := Option.some.inj left
        rw [sub_eq_add_neg]
        exact ofRatRounds (v + -w)

theorem infiniteSub {y : Double} {b : Rat} (value : y.value? = some b) (negative : Bool) :
    infinite negative - y = infinite negative := by
  change (infinite negative).add y.neg = infinite negative
  cases y with
  | infinite other => cases value
  | nan => cases value
  | negativeZero => rfl
  | finite v => by_cases zero : v = 0 <;> simp [neg, zero, add]

theorem valueNotNan {x : Double} {a : Rat} (value : x.value? = some a) : x ≠ .nan := by
  rintro rfl
  cases value

theorem valueOrInfinite {x : Double} (number : x ≠ .nan) :
    (∃ v, x.value? = some v) ∨ ∃ negative, x = .infinite negative := by
  cases x with
  | finite v => exact .inl ⟨v, rfl⟩
  | negativeZero => exact .inl ⟨0, rfl⟩
  | infinite negative => exact .inr ⟨negative, rfl⟩
  | nan => exact absurd rfl number

theorem zeroRounds : Rounds 0 0 := ofRatRounds 0

section
variable {x y z : Double} {a b : Rat}

theorem subAntitone (number : x ≠ .nan) (xExact : x.Exact) (yExact : y.Exact) (zExact : z.Exact)
    (yValue : y.value? = some a) (zValue : z.value? = some b) (le : a ≤ b) :
    (x - z).atMost (x - y) = true := by
  rcases valueOrInfinite number with ⟨d, value⟩ | ⟨negative, rfl⟩
  · exact (subRounds value zValue xExact zExact).atMost (subRounds value yValue xExact yExact)
      (by linarith)
  · rw [infiniteSub yValue, infiniteSub zValue]
    cases negative <;> rfl

theorem subPositive (number : x ≠ .nan) (xExact : x.Exact) (yExact : y.Exact)
    (yValue : y.value? = some a) (left : (x - y).atMost 0 = false) :
    less 0 (x - y) = true ∧ y.less x = true := by
  rcases valueOrInfinite number with ⟨d, value⟩ | ⟨negative, rfl⟩
  · have rounds := subRounds value yValue xExact yExact
    have later : a < d := by
      by_contra passed
      rw [rounds.atMost zeroRounds (by linarith)] at left
      cases left
    rw [atMostLess rounds.notNan zeroRounds.notNan, Bool.not_eq_false'] at left
    exact ⟨left, by rw [lessFinite yValue value]; simpa using later⟩
  · rw [infiniteSub yValue] at left ⊢
    cases negative with
    | false => exact ⟨rfl, (lessInfinite yValue false).1⟩
    | true => cases left

theorem subReached (xExact : x.Exact) (yExact : y.Exact) (yValue : y.value? = some a)
    (reached : x.atMost y = true) : (x - y).atMost 0 = true := by
  have number : x ≠ .nan := by
    rintro rfl
    cases reached
  rw [atMostLess number (valueNotNan yValue)] at reached
  rcases valueOrInfinite number with ⟨d, value⟩ | ⟨negative, rfl⟩
  · rw [lessFinite yValue value] at reached
    have order : d ≤ a := by simpa using reached
    exact (subRounds value yValue xExact yExact).atMost zeroRounds (by linarith)
  · rw [(lessInfinite yValue negative).1, Bool.not_not] at reached
    rw [infiniteSub yValue, reached]
    rfl

end

def IsTime (x : Double) : Prop := ∃ v, x = .finite v ∧ ofRat v = .finite v

theorem ofRatFixed {v : Rat} (fixed : ofRat v = .finite v) :
    Number.nearest v = v ∧ |v| < pow2 1024 := by
  have rounds := ofRatRounds v
  rw [fixed] at rounds
  exact rounds.nearest rfl

theorem IsTime.rounds {x : Double} (time : x.IsTime) : ∃ v, x.value? = some v ∧ x.Rounds v := by
  obtain ⟨v, rfl, fixed⟩ := time
  obtain ⟨same, small⟩ := ofRatFixed fixed
  exact ⟨v, rfl, exactRounds rfl same small⟩

theorem IsTime.exact {x : Double} (time : x.IsTime) : x.Exact := by
  obtain ⟨v, value, rounds⟩ := time.rounds
  intro w other
  obtain rfl := Option.some.inj (value.symm.trans other)
  exact rounds

theorem sumExact {x : Double} (time : x.IsTime) (y : Double) : (x + y).Exact := by
  have whole := time.exact
  obtain ⟨v, rfl, -⟩ := time
  change ((finite v).add y).Exact
  cases y with
  | infinite negative => exact nofun
  | nan => exact nofun
  | negativeZero => exact whole
  | finite w => exact ofRatExact (v + w)

theorem atMostNan (x : Double) : x.atMost .nan = false := by cases x <;> rfl

theorem sumNotNan {x y : Double} {a : Rat} (value : x.value? = some a)
    (forward : atMost 0 y = true) : x + y ≠ .nan := by
  change x.add y ≠ .nan
  cases y with
  | nan =>
    rw [atMostNan] at forward
    cases forward
  | infinite negative => cases x <;> simp_all [value?, add]
  | negativeZero => cases x <;> simp_all [value?, add]
  | finite w =>
    cases x with
    | infinite negative => cases value
    | nan => cases value
    | negativeZero => exact nofun
    | finite v => exact (ofRatRounds (v + w)).notNan

theorem sumAfter {x y : Double} (time : x.IsTime) (forward : atMost 0 y = true) :
    x.atMost (x + y) = true := by
  obtain ⟨v, value, rounds⟩ := time.rounds
  obtain ⟨w, rfl, -⟩ := time
  obtain rfl := Option.some.inj value
  change (finite w).atMost ((finite w).add y) = true
  cases y with
  | infinite negative =>
    cases negative with
    | false => rfl
    | true => cases forward
  | nan => cases forward
  | negativeZero => exact rounds.atMost rounds le_rfl
  | finite u =>
    have zero : (0 : Double).value? = some 0 := rfl
    have number : finite u ≠ .nan := nofun
    rw [atMostLess zeroRounds.notNan number, lessFinite rfl zero] at forward
    have later : 0 ≤ u := by simpa using forward
    exact rounds.atMost (ofRatRounds (w + u)) (by linarith)

end PageAudit.Number.Double
