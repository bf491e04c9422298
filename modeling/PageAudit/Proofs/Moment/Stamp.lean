import Mathlib.Order.Defs.LinearOrder
import PageAudit.Proofs.Moment.Calendar
/-!
Time stamps. A stamp is the written form of the moment that an instant is in universal time, cut to
milliseconds. Its fields have fixed widths and stand from the years down, so stamps are in the order
of their instants.
-/
namespace PageAudit.Moment

structure Valid (m : Moment) : Prop extends IsDate m.year m.month m.day where
  lastYear : m.year ≤ 9999
  hour : m.hour < 24
  minute : m.minute < 60
  second : m.second < 60
  micro : m.micro < 1000000

/-- The microseconds from the start of the year one in universal time, for a moment on a clock that
is some minutes ahead of it. -/
def instant (m : Moment) (offset : Int) : Int :=
  ((((daysBefore m.year m.month m.day * 24 + m.hour) * 60 + m.minute : Nat) - offset) * 60 +
    m.second) * 1000000 + m.micro

def InYears (t : Int) : Prop := 0 ≤ t ∧ t < 86400000000 * ∑ y ∈ Finset.Ico 1 10000, yearDays y

structure Digits (width n : Nat) (text : List Char) : Prop where
  long : text.length = width
  digits : ∀ c ∈ text, c.isDigit = true
  value : Nat.ofDigitChars 10 text 0 = n

structure Field where
  width : Nat
  value : Nat
  mark : Char
  deriving DecidableEq, Repr

def Field.text (f : Field) : List Char := (padded f.width f.value).toList ++ [f.mark]

inductive Written : List Field → List Char → Prop
  | nil : Written [] []
  | cons {f : Field} {ds : List Char} {fs : List Field} {text : List Char}
    (digits : Digits f.width f.value ds) (later : Written fs text) :
    Written (f :: fs) (ds ++ f.mark :: text)

def fields (m : Moment) : List Field := [
  ⟨4, m.year, '-'⟩, ⟨2, m.month, '-'⟩, ⟨2, m.day, 'T'⟩, ⟨2, m.hour, ':'⟩, ⟨2, m.minute, ':'⟩,
  ⟨2, m.second, '.'⟩, ⟨3, m.micro / 1000, 'Z'⟩]

def Denotes (text : String) (t : Int) : Prop :=
  ∃ u : Moment, u.Valid ∧ u.micro % 1000 = 0 ∧ Written u.fields text.toList ∧ u.instant 0 = t

/-- The order of lists by their first difference, equal ones included. -/
def InOrder {α : Type} (key : α → Nat) (a b : List α) : Prop :=
  a = b ∨ List.Lex (fun c d => key c < key d) a b

section
variable {m u v : Moment} {offset t : Int} {width n k : Nat} {a b x y text : List Char}

theorem inYearsBounds : InYears t ↔ 0 ≤ t ∧ t < 315537897600000000 := by
  rw [InYears, yearsSum 9999]
  exact Iff.rfl

theorem minutesNumbered (valid : m.Valid) : m.minutes =
    (daysBefore m.year m.month m.day * 24 + m.hour) * 60 + m.minute + 440640 := by
  rw [minutes, valid.toIsDate.numbered]
  omega

theorem endNumbered : (endMinute : Int) = 5259405600 := rfl

theorem dateInYears {year month day : Nat} (early : daysBefore year month day < 3652059) :
    year ≤ 9999 := by
  by_contra late
  have years : ∑ y ∈ Finset.Ico 1 10000, yearDays y ≤ ∑ y ∈ Finset.Ico 1 year, yearDays y :=
    Finset.sum_le_sum_of_subset (Finset.Ico_subset_Ico_right (by omega))
  rw [yearsSum 9999, show marchStart 9999 = 3652059 from rfl] at years
  unfold daysBefore at early
  omega

theorem shiftedInYears (valid : m.Valid) (offset : Int) : InYears (m.instant offset) ↔
    ((m.minutes : Int) - offset < firstMinute || endMinute ≤ (m.minutes : Int) - offset) =
      false := by
  have second := valid.second
  have micro := valid.micro
  rw [inYearsBounds, instant, minutesNumbered valid, endNumbered,
    show (firstMinute : Int) = 440640 from rfl, Bool.or_eq_false_iff, decide_eq_false_iff_not,
    decide_eq_false_iff_not]
  omega

theorem universalFound (valid : m.Valid) (inside : InYears (m.instant offset)) :
    ∃ u, m.toUniversal offset = .ok u ∧ u.Valid ∧ u.instant 0 = m.instant offset := by
  have kept := (shiftedInYears valid offset).mp inside
  have bounds := inYearsBounds.mp inside
  have second := valid.second
  have micro := valid.micro
  have minutes := minutesNumbered valid
  unfold toUniversal
  simp only [kept]
  unfold instant at bounds ⊢
  generalize shifted : ((m.minutes : Int) - offset).toNat = n
  obtain ⟨year, month, day, parts, date, numbered⟩ := dateFound (n := n / 1440) (by omega)
  rw [date.numbered] at numbered
  have last : year ≤ 9999  :=
    dateInYears (show daysBefore year month day < 3652059 by omega)
  simp only [parts]
  refine ⟨_, rfl, ⟨date, last, ?_, ?_, second, micro⟩, ?_⟩
  · change n % 1440 / 60 < 24
    omega
  · exact Nat.mod_lt n (by decide)
  · dsimp only
    push_cast
    omega

theorem universalMissed (valid : m.Valid) (outside : ¬InYears (m.instant offset)) :
    m.toUniversal offset = .error .outOfRange := by
  rw [shiftedInYears valid, Bool.not_eq_false] at outside
  unfold toUniversal
  simp only [outside, if_true]

theorem zerosValue (count : Nat) : Nat.ofDigitChars 10 (List.replicate count '0') 0 = 0 := by
  induction count with
  | zero => rfl
  | succ count ih => rw [List.replicate_succ, Nat.ofDigitChars_cons]; exact ih

theorem paddedDigits (few : n < 10 ^ width) (some : 0 < width) :
    Digits width n (padded width n).toList := by
  have short := (Nat.length_toDigits_le_iff (by decide : 1 < 10) some).mpr few
  rw [padded, String.toList_ofList]
  constructor
  · rw [List.length_append, List.length_replicate]
    omega
  · intro c member
    rcases List.mem_append.mp member with zero | digit
    · rw [List.eq_of_mem_replicate zero]
      rfl
    · exact Nat.isDigit_of_mem_toDigits (by decide) (by decide) digit
  · rw [Nat.ofDigitChars_append, zerosValue]
    exact Nat.ofDigitChars_toDigits (by decide) (by decide)

theorem writtenFields {fs : List Field} (fit : ∀ f ∈ fs, 0 < f.width ∧ f.value < 10 ^ f.width) :
    Written fs (fs.flatMap Field.text) := by
  induction fs with
  | nil => exact .nil
  | cons f fs ih =>
    obtain ⟨⟨some, few⟩, later⟩ := List.forall_mem_cons.mp fit
    rw [List.flatMap_cons, Field.text, List.append_assoc, List.singleton_append]
    exact .cons (paddedDigits few some) (ih later)

theorem monthDaysMost (leap : Bool) (month : Nat) : monthDays leap month ≤ 31 := by
  unfold monthDays
  split
  · split <;> decide
  all_goals decide

theorem fieldsFit (valid : m.Valid) : ∀ f ∈ m.fields, 0 < f.width ∧ f.value < 10 ^ f.width := by
  have year := valid.lastYear
  have month := valid.inYear.2
  have day := valid.inMonth.2.trans (monthDaysMost _ _)
  have hour := valid.hour
  have minute := valid.minute
  have second := valid.second
  have micro := valid.micro
  simp only [fields, List.forall_mem_cons, List.not_mem_nil, false_implies, implies_true, and_true]
  omega

theorem writtenStamp (valid : m.Valid) : Written m.fields m.stamp.toList := by
  have form : m.stamp.toList = m.fields.flatMap Field.text := by
    simp only [stamp, fields, Field.text, List.flatMap_cons, String.toList_append,
      List.append_assoc]
    rfl
  rw [form]
  exact writtenFields (fieldsFit valid)

theorem writtenLength {fs : List Field} (written : Written fs text) :
    text.length = (fs.map fun f => f.width + 1).sum := by
  induction written with
  | nil => rfl
  | cons digits later ih =>
    rw [List.length_append, List.length_cons, digits.long, ih, List.map_cons, List.sum_cons]
    omega

theorem digitSmall {c : Char} (digit : c.isDigit = true) :
    '0'.toNat ≤ c.toNat ∧ c.toNat - '0'.toNat < 10 := by
  obtain ⟨low, high⟩ := Char.isDigit_iff_toNat.mp digit
  change 48 ≤ c.toNat at low
  change c.toNat ≤ 57 at high
  change 48 ≤ c.toNat ∧ c.toNat - 48 < 10
  omega

/- Digits that come after a number add less to it than the next number would. -/
theorem digitsBetween (digits : ∀ c ∈ a, c.isDigit = true) (start : Nat) :
    start * 10 ^ a.length ≤ Nat.ofDigitChars 10 a start ∧
      Nat.ofDigitChars 10 a start < (start + 1) * 10 ^ a.length := by
  induction a generalizing start with
  | nil => simp [Nat.ofDigitChars]
  | cons c a ih =>
    obtain ⟨digit, digits⟩ := List.forall_mem_cons.mp digits
    obtain ⟨low, high⟩ := ih digits (10 * start + (c.toNat - '0'.toNat))
    have small := (digitSmall digit).2
    rw [Nat.ofDigitChars_cons, List.length_cons, Nat.pow_succ]
    constructor
    · refine low.trans' ?_
      rw [Nat.mul_comm _ 10, ← Nat.mul_assoc]
      exact Nat.mul_le_mul_right _ (by omega)
    · refine high.trans_le ?_
      rw [Nat.mul_comm _ 10, ← Nat.mul_assoc]
      exact Nat.mul_le_mul_right _ (by omega)

theorem inOrderCons {α : Type} {key : α → Nat} {c d : α} {a b : List α} :
    InOrder key (c :: a) (d :: b) ↔ key c < key d ∨ c = d ∧ InOrder key a b := by
  rw [InOrder, InOrder, List.cons.injEq, List.cons_lex_cons_iff]
  tauto

theorem digitsOrder (left : ∀ c ∈ a, c.isDigit = true) (right : ∀ c ∈ b, c.isDigit = true)
    (long : a.length = b.length) (start : Nat)
    (le : Nat.ofDigitChars 10 a start ≤ Nat.ofDigitChars 10 b start) :
    InOrder Char.toNat a b := by
  induction a generalizing b start with
  | nil => exact .inl (List.eq_nil_of_length_eq_zero long.symm).symm
  | cons c a ih =>
    cases b with
    | nil => cases long
    | cons d b =>
      obtain ⟨leftDigit, left⟩ := List.forall_mem_cons.mp left
      obtain ⟨rightDigit, right⟩ := List.forall_mem_cons.mp right
      have long : a.length = b.length := Nat.succ.inj long
      rw [Nat.ofDigitChars_cons, Nat.ofDigitChars_cons] at le
      rw [inOrderCons]
      rcases lt_trichotomy c.toNat d.toNat with less | same | more
      · exact .inl less
      · rw [same] at le
        exact .inr ⟨Char.toNat_inj.mp same, ih left right long _ le⟩
      · exfalso
        have low := (digitsBetween left (10 * start + (c.toNat - '0'.toNat))).1
        have high := (digitsBetween right (10 * start + (d.toNat - '0'.toNat))).2
        have above := (digitSmall rightDigit).1
        have order : (10 * start + (d.toNat - '0'.toNat) + 1) * 10 ^ b.length ≤
            (10 * start + (c.toNat - '0'.toNat)) * 10 ^ a.length := by
          rw [long]
          exact Nat.mul_le_mul_right _ (by omega)
        omega

theorem appendOrder (long : a.length = b.length)
    (less : List.Lex (fun c d => c.toNat < d.toNat) a b) (x y : List Char) :
    InOrder Char.toNat (a ++ x) (b ++ y) := by
  induction less with
  | nil => cases long
  | rel less => exact .inr (.rel less)
  | cons later ih => exact inOrderCons.mpr (.inr ⟨rfl, ih (Nat.succ.inj long)⟩)

theorem prefixOrder (a : List Char) (order : InOrder Char.toNat x y) :
    InOrder Char.toNat (a ++ x) (a ++ y) := by
  induction a with
  | nil => exact order
  | cons c a ih => exact inOrderCons.mpr (.inr ⟨rfl, ih⟩)

theorem fieldOrder (left : Digits width n a) (right : Digits width k b)
    (order : n < k ∨ n = k ∧ InOrder Char.toNat x y) : InOrder Char.toNat (a ++ x) (b ++ y) := by
  have long : a.length = b.length := left.long.trans right.long.symm
  have le : n ≤ k := order.elim Nat.le_of_lt fun same => same.1.le
  rw [← left.value, ← right.value] at le
  rcases digitsOrder left.digits right.digits long 0 le with rfl | apart
  · refine prefixOrder a (order.elim (fun less => ?_) And.right)
    exact absurd (left.value.symm.trans right.value) less.ne
  · exact appendOrder long apart x y

theorem writtenOrder {fs gs : List Field} {s t : List Char} (left : Written fs s)
    (right : Written gs t)
    (alike : fs.map (fun f => (f.width, f.mark)) = gs.map fun f => (f.width, f.mark))
    (order : InOrder Field.value fs gs) : InOrder Char.toNat s t := by
  induction left generalizing gs t with
  | nil =>
    cases right with
    | nil => exact .inl rfl
    | cons digits later => cases alike
  | cons digits later ih =>
    cases right with
    | nil => cases alike
    | cons digits' later' =>
      simp only [List.map_cons, List.cons.injEq, Prod.mk.injEq] at alike
      obtain ⟨⟨width, mark⟩, alike⟩ := alike
      rw [inOrderCons] at order
      rw [mark]
      refine fieldOrder digits (width ▸ digits') (order.imp id fun ⟨same, rest⟩ => ?_)
      exact ⟨congrArg Field.value same, prefixOrder [_] (ih later' alike rest)⟩

theorem dateOrder {year month day year' month' day' : Nat} (left : IsDate year month day)
    (right : IsDate year' month' day')
    (le : daysBefore year month day ≤ daysBefore year' month' day') :
    year < year' ∨ year = year' ∧ (month < month' ∨ month = month' ∧ (day < day' ∨ day = day' ∧
      daysBefore year month day = daysBefore year' month' day')) := by
  rcases lt_trichotomy year year' with less | rfl | more
  · exact .inl less
  · refine .inr ⟨rfl, ?_⟩
    unfold daysBefore at le ⊢
    rcases lt_trichotomy month month' with less | rfl | more
    · exact .inl less
    · unfold daysInYear at le ⊢
      have first := left.inMonth.1
      have first' := right.inMonth.1
      omega
    · have order := right.monthOrder more day
      omega
  · have order := right.yearOrder more
    unfold daysBefore at order le
    omega

theorem fieldsOrder (left : u.Valid) (right : v.Valid)
    (order : u.instant 0 / 1000 ≤ v.instant 0 / 1000) :
    InOrder Field.value u.fields v.fields := by
  have hour := left.hour
  have hour' := right.hour
  have minute := left.minute
  have minute' := right.minute
  have second := left.second
  have second' := right.second
  have micro := left.micro
  have micro' := right.micro
  unfold instant at order
  have days : daysBefore u.year u.month u.day ≤ daysBefore v.year v.month v.day := by omega
  have dates := dateOrder left.toIsDate right.toIsDate days
  have ended : InOrder Field.value [] [] := .inl rfl
  simp only [fields, inOrderCons, Field.mk.injEq, true_and, and_true, ended]
  refine dates.imp id fun ⟨year, months⟩ => ⟨year, months.imp id fun ⟨month, days⟩ =>
    ⟨month, days.imp id fun ⟨day, same⟩ => ⟨day, ?_⟩⟩⟩
  omega

theorem fieldsAlike (u v : Moment) :
    u.fields.map (fun f => (f.width, f.mark)) = v.fields.map fun f => (f.width, f.mark) := rfl

theorem stampDenotes (valid : u.Valid) : Denotes u.stamp (u.instant 0 / 1000 * 1000) := by
  refine ⟨{ u with micro := u.micro / 1000 * 1000 }, ⟨valid.toIsDate, valid.lastYear, valid.hour,
    valid.minute, valid.second, ?_⟩, Nat.mul_mod_left _ _, ?_, ?_⟩
  · have micro := valid.micro
    dsimp only
    omega
  · have written := writtenStamp valid
    simp only [fields, Nat.mul_div_cancel _ (by decide : 0 < 1000)] at written ⊢
    exact written
  · simp only [instant]
    omega

theorem stampedOk (valid : m.Valid) {offset : Int} {text : String}
    (stamped : m.stampAt offset = .ok text) :
    ∃ u : Moment, u.Valid ∧ u.instant 0 = m.instant offset ∧ text = u.stamp := by
  unfold stampAt at stamped
  by_cases inside : InYears (m.instant offset)
  · obtain ⟨u, shifted, valid, same⟩ := universalFound valid inside
    rw [shifted] at stamped
    exact ⟨u, valid, same, (Except.ok.inj stamped).symm⟩
  · rw [universalMissed valid inside] at stamped
    cases stamped

end

theorem stampedInOrder {m : Moment} (valid : m.Valid) (offset : Int) :
    (InYears (m.instant offset) → ∃ text, m.stampAt offset = .ok text ∧ text.length = 24 ∧
      Denotes text (m.instant offset / 1000 * 1000) ∧
      ∀ (later : Moment) (ahead : Int) (other : String), later.Valid →
        later.stampAt ahead = .ok other → m.instant offset ≤ later.instant ahead →
        InOrder Char.toNat text.toList other.toList) ∧
    (¬InYears (m.instant offset) → m.stampAt offset = .error .outOfRange) := by
  refine ⟨fun inside => ?_, fun outside => ?_⟩
  · obtain ⟨u, shifted, universal, same⟩ := universalFound valid inside
    have written := writtenStamp universal
    refine ⟨u.stamp, by rw [stampAt, shifted], ?_, ?_,
      fun later ahead other right stamped order => ?_⟩
    · exact String.length_toList.symm.trans (writtenLength written)
    · rw [← same]
      exact stampDenotes universal
    · obtain ⟨v, valid', same', rfl⟩ := stampedOk right stamped
      rw [← same, ← same'] at order
      exact writtenOrder written (writtenStamp valid') (fieldsAlike u v)
        (fieldsOrder universal valid' (by omega))
  · rw [stampAt, universalMissed valid outside]

theorem leapNightStamped :
    Denotes "0004-02-29T23:30:05.678Z"
        ((⟨4, 3, 1, 0, 30, 5, 678901⟩ : Moment).instant 60 / 1000 * 1000) ∧
      (⟨1, 1, 1, 0, 0, 0, 0⟩ : Moment).stampAt 1 = .error .outOfRange := by
  have night : (⟨4, 3, 1, 0, 30, 5, 678901⟩ : Moment).Valid := by
    refine ⟨⟨?_, ?_, ?_⟩, ?_, ?_, ?_, ?_, ?_⟩ <;> decide
  have start : (⟨1, 1, 1, 0, 0, 0, 0⟩ : Moment).Valid := by
    refine ⟨⟨?_, ?_, ?_⟩, ?_, ?_, ?_, ?_, ?_⟩ <;> decide
  have inside : InYears ((⟨4, 3, 1, 0, 30, 5, 678901⟩ : Moment).instant 60) :=
    inYearsBounds.mpr (by decide)
  obtain ⟨text, stamped, -, denotes, -⟩ := (stampedInOrder night 60).1 inside
  obtain rfl : text = "0004-02-29T23:30:05.678Z" := Except.ok.inj (stamped.symm.trans rfl)
  exact ⟨denotes, (stampedInOrder start 1).2 fun inYears =>
    absurd (inYearsBounds.mp inYears).1 (by decide)⟩

end PageAudit.Moment
