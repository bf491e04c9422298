import Mathlib.Algebra.BigOperators.Intervals
import Mathlib.Algebra.Order.BigOperators.Group.Finset
import PageAudit.Moment
/-!
The calendar behind moments. Days are told apart by years and months of their own lengths, and
counted from the first day of the year one; the numbers of days that moments are computed with are
these counts, and every such number is that of one date.
-/
namespace PageAudit.Moment

def isLeap (year : Nat) : Bool := year % 4 == 0 && (year % 100 != 0 || year % 400 == 0)

def yearDays (year : Nat) : Nat := if isLeap year then 366 else 365

def monthDays (leap : Bool) : Nat → Nat
  | 2 => if leap then 29 else 28
  | 4 | 6 | 9 | 11 => 30
  | _ => 31

structure IsDate (year month day : Nat) : Prop where
  counted : 1 ≤ year
  inYear : 1 ≤ month ∧ month ≤ 12
  inMonth : 1 ≤ day ∧ day ≤ monthDays (isLeap year) month

def daysInYear (year month day : Nat) : Nat :=
  ∑ m ∈ Finset.Ico 1 month, monthDays (isLeap year) m + (day - 1)

def daysBefore (year month day : Nat) : Nat :=
  ∑ y ∈ Finset.Ico 1 year, yearDays y + daysInYear year month day

/-- The days before a year that starts with March, from the year zero. -/
def marchStart (year : Nat) : Nat := 365 * year + year / 4 - year / 100 + year / 400

/-- The year of a cycle of four hundred in which a day lies, if years start with March. -/
def cycleYear (n : Nat) : Nat := (n - n / 1460 + n / 36524 - n / 146096) / 365

def marchYear (n : Nat) : Nat := 400 * (n / 146097) + cycleYear (n % 146097)

def marchMonth (n : Nat) : Nat :=
  if (5 * n + 2) / 153 < 10 then (5 * n + 2) / 153 + 3 else (5 * n + 2) / 153 - 9

def marchDay (n : Nat) : Nat := n - (153 * ((5 * n + 2) / 153) + 2) / 5 + 1

section
variable {year month day other n m : Nat}

theorem sumBefore (length : Nat → Nat) {a b : Nat} (first : 1 ≤ a) (less : a < b) :
    ∑ k ∈ Finset.Ico 1 a, length k + length a ≤ ∑ k ∈ Finset.Ico 1 b, length k := by
  rw [← Finset.sum_Ico_succ_top first]
  exact Finset.sum_le_sum_of_subset (Finset.Ico_subset_Ico_right less)

theorem monthsSum : ∀ leap : Bool,
    ∑ m ∈ Finset.Ico 1 13, monthDays leap m = if leap then 366 else 365 := by decide

theorem IsDate.withinYear (date : IsDate year month day) :
    daysInYear year month day < yearDays year := by
  have whole := monthsSum (isLeap year)
  have months := sumBefore (monthDays (isLeap year)) date.inYear.1
    (show month < 13 from Nat.lt_succ_of_le date.inYear.2)
  have first := date.inMonth
  rw [whole] at months
  unfold daysInYear yearDays
  omega

theorem IsDate.monthOrder (date : IsDate year month day) {later : Nat} (less : month < later)
    (last : Nat) : daysInYear year month day < daysInYear year later last := by
  have months := sumBefore (monthDays (isLeap year)) date.inYear.1 less
  have first := date.inMonth
  unfold daysInYear
  omega

theorem IsDate.yearOrder (date : IsDate year month day) (less : year < other) :
    daysBefore year month day < ∑ y ∈ Finset.Ico 1 other, yearDays y := by
  have years := sumBefore yearDays date.counted less
  have inside := date.withinYear
  unfold daysBefore
  omega

theorem marchNext (year : Nat) : marchStart (year + 1) = marchStart year + yearDays (year + 1) := by
  have fourths : 100 ∣ year + 1 → 4 ∣ year + 1 := dvd_trans (by decide)
  have hundreds : 400 ∣ year + 1 → 100 ∣ year + 1 := dvd_trans (by decide)
  have fewer : year / 100 ≤ year / 4 := Nat.div_le_div_left (by decide) (by decide)
  simp only [marchStart, yearDays, isLeap, Nat.succ_div, Bool.and_eq_true, Bool.or_eq_true,
    beq_iff_eq, bne_iff_ne, ← Nat.dvd_iff_mod_eq_zero, ne_eq]
  by_cases fourth : 4 ∣ year + 1 <;> by_cases hundred : 100 ∣ year + 1 <;>
    by_cases all : 400 ∣ year + 1 <;> simp_all <;> omega

theorem yearsSum (year : Nat) : ∑ y ∈ Finset.Ico 1 (year + 1), yearDays y = marchStart year := by
  induction year with
  | zero => rfl
  | succ year ih => rw [Finset.sum_Ico_succ_top (Nat.succ_pos year), ih, marchNext]

/- The months before January and February are the ten from March on. -/
theorem monthsNumbered : ∀ leap : Bool, ∀ month < 13, 1 ≤ month →
    ∑ m ∈ Finset.Ico 1 month, monthDays leap m + 306 =
      (153 * ((month + 9) % 12) + 2) / 5 +
        if month ≤ 2 then 0 else if leap then 366 else 365 := by
  decide

theorem dayNumberMarch (year month day : Nat) : dayNumber year month day =
    marchStart (if month ≤ 2 then year - 1 else year) + (153 * ((month + 9) % 12) + 2) / 5 +
      (day - 1) := rfl

theorem IsDate.numbered (date : IsDate year month day) :
    dayNumber year month day = daysBefore year month day + 306 := by
  have months :=
    monthsNumbered (isLeap year) month (Nat.lt_succ_of_le date.inYear.2) date.inYear.1
  obtain ⟨before, rfl⟩ := Nat.exists_eq_add_of_le' date.counted
  have next := marchNext before
  rw [dayNumberMarch, daysBefore, daysInYear, yearsSum]
  by_cases early : month ≤ 2
  · rw [if_pos early] at months ⊢
    rw [Nat.add_sub_cancel]
    omega
  · rw [if_neg early] at months ⊢
    unfold yearDays at next
    omega

theorem cycleYearMono (less : n ≤ m) (within : m < 146097) : cycleYear n ≤ cycleYear m := by
  unfold cycleYear
  refine Nat.div_le_div_right ?_
  omega

theorem cycleYears : ∀ year < 400, marchStart (year + 1) ≤ 146097 ∧
    cycleYear (marchStart year) = year ∧ cycleYear (marchStart (year + 1) - 1) = year := by
  decide +kernel

theorem cycleYearFound (within : n < 146097) :
    marchStart (cycleYear n) ≤ n ∧ n < marchStart (cycleYear n + 1) ∧ cycleYear n < 400 := by
  have last : cycleYear n ≤ 399 := cycleYearMono (m := 146096) (by omega) (by decide)
  refine ⟨not_lt.mp fun early => ?_, not_le.mp fun late => ?_, Nat.lt_succ_of_le last⟩
  · cases year : cycleYear n with
    | zero =>
      rw [year] at early
      cases early
    | succ before =>
      obtain ⟨short, -, ends⟩ := cycleYears before (by omega)
      rw [year] at early
      have order := cycleYearMono (n := n) (m := marchStart (before + 1) - 1) (by omega) (by omega)
      omega
  · rcases Nat.lt_or_ge (cycleYear n) 399 with inside | ended
    · obtain ⟨-, starts, -⟩ := cycleYears (cycleYear n + 1) (by omega)
      have order := cycleYearMono late within
      omega
    · rw [le_antisymm last ended] at late
      exact absurd (within.trans_le' late) (by decide)

theorem marchCycle (cycle year : Nat) :
    marchStart (400 * cycle + year) = 146097 * cycle + marchStart year := by
  unfold marchStart
  omega

theorem marchYearFound (n : Nat) :
    marchStart (marchYear n) ≤ n ∧ n < marchStart (marchYear n + 1) := by
  obtain ⟨starts, ends, -⟩ := cycleYearFound (Nat.mod_lt n (by decide : 0 < 146097))
  have whole := Nat.div_add_mod n 146097
  unfold marchYear
  rw [add_assoc, marchCycle, marchCycle]
  omega

/- The days of a year that starts with March, by month; those of its last two months belong to the
next one. -/
theorem monthFound : ∀ leap : Bool, ∀ n < if leap then 366 else 365,
    (1 ≤ marchMonth n ∧ marchMonth n ≤ 12) ∧
      (1 ≤ marchDay n ∧ marchDay n ≤ monthDays leap (marchMonth n)) ∧
      (153 * ((marchMonth n + 9) % 12) + 2) / 5 + (marchDay n - 1) = n ∧
      (306 ≤ n → marchMonth n ≤ 2) := by
  decide +kernel

theorem ofDayNumberMarch (n : Nat) : ofDayNumber n =
    let month := marchMonth (n - marchStart (marchYear n))
    (if month ≤ 2 then marchYear n + 1 else marchYear n, month,
      marchDay (n - marchStart (marchYear n))) := by
  obtain ⟨-, -, few⟩ := cycleYearFound (Nat.mod_lt n (by decide : 0 < 146097))
  have inYear : n - marchStart (marchYear n) = n % 146097 - (365 * cycleYear (n % 146097) +
      cycleYear (n % 146097) / 4 - cycleYear (n % 146097) / 100) := by
    have whole := Nat.div_add_mod n 146097
    rw [marchYear, marchCycle, marchStart]
    omega
  rw [inYear]
  rfl

theorem monthDaysApart (leap other : Bool) (apart : month ≠ 2) :
    monthDays leap month = monthDays other month := by
  unfold monthDays
  split <;> simp_all

theorem dateFound (later : 306 ≤ n) : ∃ year month day,
    ofDayNumber n = (year, month, day) ∧ IsDate year month day ∧ dayNumber year month day = n := by
  obtain ⟨starts, ends⟩ := marchYearFound n
  rw [marchNext, yearDays] at ends
  obtain ⟨inYear, inMonth, placed, turned⟩ :=
    monthFound (isLeap (marchYear n + 1)) (n - marchStart (marchYear n)) (by omega)
  refine ⟨_, _, _, ofDayNumberMarch n, ?_⟩
  rw [dayNumberMarch]
  generalize days : n - marchStart (marchYear n) = k at *
  by_cases early : marchMonth k ≤ 2
  · simp only [if_pos early]
    refine ⟨⟨Nat.succ_pos _, inYear, inMonth⟩, ?_⟩
    rw [Nat.add_sub_cancel]
    omega
  · simp only [if_neg early]
    have counted : 1 ≤ marchYear n := by
      by_contra none
      have first : marchYear n = 0 := by omega
      rw [first, show marchStart 0 = 0 from rfl] at days
      exact early (turned (by omega))
    rw [monthDaysApart _ (isLeap (marchYear n)) (by omega)] at inMonth
    exact ⟨⟨counted, inYear, inMonth⟩, by omega⟩

end

end PageAudit.Moment
