import PageAudit.Text.Kind
import PageAudit.Text.Case
/-!
Decimal digits of every script stand in rows of ten. None of them has a letter case, and none is
white space.
-/
namespace PageAudit.Text

theorem countFromLow (entry : Nat → Nat) (n halvings lo hi : Nat) :
    lo ≤ countUpTo entry n halvings lo hi := by
  induction halvings generalizing lo hi with
  | zero => exact Nat.le_refl lo
  | succ halvings ih =>
    unfold countUpTo
    split
    · dsimp only
      split
      · have high := ih ((lo + hi) / 2 + 1) hi
        omega
      · exact ih lo ((lo + hi) / 2)
    · exact Nat.le_refl lo

theorem countedLast {entry : Nat → Nat} {n halvings lo hi : Nat}
    (some : lo < countUpTo entry n halvings lo hi) :
    entry (countUpTo entry n halvings lo hi - 1) ≤ n := by
  induction halvings generalizing lo hi with
  | zero => exact absurd some (Nat.lt_irrefl lo)
  | succ halvings ih =>
    unfold countUpTo at some ⊢
    split at some
    · rename_i open'
      simp only [if_pos open'] at some ⊢
      split at some
      · rename_i fits
        simp only [if_pos fits] at some ⊢
        rcases Nat.eq_or_lt_of_le (countFromLow entry n halvings ((lo + hi) / 2 + 1) hi) with
          last | more
        · rw [← last]
          exact fits
        · exact ih more
      · rename_i exceeds
        simp only [if_neg exceeds] at some ⊢
        exact ih some
    · exact absurd some (Nat.lt_irrefl lo)

theorem rankLast {size n i : Nat} (entry : Nat → Nat) (counted : rank size entry n = i + 1) :
    entry i ≤ n := by
  have last : 0 < countUpTo entry n 21 0 size := by
    rw [← rank, counted]
    exact Nat.succ_pos i
  have small := countedLast last
  rwa [← rank, counted] at small

theorem shiftCases (runs : Array CaseRun) (n : Nat) : shiftBy runs n = n ∨
    ∃ run ∈ runs.toList, run.first ≤ n ∧ n ≤ run.last ∧ shiftBy runs n = (n + run.shift).toNat := by
  unfold shiftBy
  split
  · exact .inl rfl
  · rename_i i counted
    have first := rankLast (fun i => (runs.getD i ⟨0, 0, 1, 0⟩).first) counted
    dsimp only at first ⊢
    rw [Array.getD_eq_getD_getElem?] at first ⊢
    by_cases inside : i < runs.size
    · rw [Array.getElem?_eq_getElem inside, Option.getD_some] at first ⊢
      split
      · rename_i within
        simp only [Bool.and_eq_true, decide_eq_true_eq] at within
        exact .inr ⟨runs[i], Array.getElem_mem_toList inside, first, within.1, rfl⟩
      · exact .inl rfl
    · rw [Array.getElem?_eq_none (Nat.not_lt.mp inside), Option.getD_none]
      split
      · exact .inl (by simp)
      · exact .inl rfl

theorem lookupListed {n m : Nat} (found : sharedCapitals.lookup n = some m) :
    (n, m) ∈ sharedCapitals := by
  obtain ⟨before, after, whole, -⟩ := List.lookup_eq_some_iff.mp found
  exact whole ▸ List.mem_append_right before List.mem_cons_self

theorem keyKept {c : Char} (high : 128 ≤ c.toNat)
    (unshifted : ∀ run ∈ lowerRuns.toList, run.last < c.toNat ∨ c.toNat < run.first)
    (alone : ∀ row ∈ sharedCapitals, row.1 ≠ c.toNat) : caseKey c = c := by
  have small : lower c = c := by
    rw [lower, if_neg (Nat.not_lt.mpr high)]
    rcases shiftCases lowerRuns c.toNat with kept | ⟨run, listed, first, last, -⟩
    · rw [kept, Char.ofNat_toNat]
    · have apart := unshifted run listed
      omega
  rw [caseKey, if_neg (Nat.not_lt.mpr high)]
  dsimp only
  rw [small]
  split
  · rename_i found
    exact absurd rfl (alone _ (lookupListed found))
  · rfl

theorem digitRow {c : Char} (digit : isDigit c = true) : (48 ≤ c.toNat ∧ c.toNat ≤ 57) ∨
    ∃ first ∈ zeros.toList, first ≤ c.toNat ∧ c.toNat < first + 10 := by
  unfold isDigit digitValue? at digit
  split at digit
  · split at digit
    · rename_i ascii
      simp only [Char.isDigit, Bool.and_eq_true, decide_eq_true_eq] at ascii
      exact .inl ⟨UInt32.le_iff_toNat_le.mp ascii.1, UInt32.le_iff_toNat_le.mp ascii.2⟩
    · cases digit
  · split at digit
    · cases digit
    · rename_i high i counted
      have first := rankLast (fun i => zeros.getD i 0) counted
      simp only at digit
      split at digit
      -- The rank leads to the zero of a row, and the digit is one of the ten from there.
      · rename_i small
        rw [Array.getD_eq_getD_getElem?] at first small
        by_cases inside : i < zeros.size
        · rw [Array.getElem?_eq_getElem inside, Option.getD_some] at first small
          exact .inr ⟨zeros[i], Array.getElem_mem_toList inside, first, by omega⟩
        · rw [Array.getElem?_eq_none (Nat.not_lt.mp inside), Option.getD_none] at small
          omega
      · cases digit

theorem rowsApart : ∀ first ∈ zeros.toList, 128 ≤ first ∧
    (∀ run ∈ lowerRuns.toList, run.last < first ∨ first + 10 ≤ run.first) ∧
    ∀ row ∈ sharedCapitals, row.1 < first ∨ first + 10 ≤ row.1 := by
  have apart : (zeros.toList.all fun first => 128 ≤ first &&
      ((lowerRuns.toList.all fun run => run.last < first || first + 10 ≤ run.first) &&
        sharedCapitals.all fun row => row.1 < first || first + 10 ≤ row.1)) = true := by
    decide +kernel
  simpa only [List.all_eq_true, Bool.and_eq_true, Bool.or_eq_true, decide_eq_true_eq] using apart

theorem rowsUnblank : ∀ first ∈ zeros.toList, 0xA0 < first ∧ first + 10 ≤ 0x1680 ∨
    0x1680 < first ∧ first + 10 ≤ 0x2000 ∨ 0x3000 < first := by
  decide +kernel

theorem digitKey {c : Char} (digit : isDigit c = true) : caseKey c = c := by
  rcases digitRow digit with ⟨low, high⟩ | ⟨first, listed, above, below⟩
  · have small : ∀ n < 58, 48 ≤ n → caseKey (Char.ofNat n) = Char.ofNat n := by decide
    have key := small c.toNat (Nat.lt_succ_of_le high) low
    rwa [Char.ofNat_toNat] at key
  · obtain ⟨high, unshifted, alone⟩ := rowsApart first listed
    refine keyKept (by omega) (fun run member => ?_) fun row member => ?_
    · have apart := unshifted run member
      omega
    · have apart := alone row member
      omega

theorem blankNoDigit {c : Char} (blank : isBlank c = true) : isDigit c = false := by
  simp only [isBlank, Bool.or_eq_true, Bool.and_eq_true, beq_iff_eq, decide_eq_true_eq] at blank
  cases digit : isDigit c with
  | false => rfl
  | true =>
    rcases digitRow digit with ⟨low, high⟩ | ⟨first, listed, above, below⟩
    · omega
    · have apart := rowsUnblank first listed
      omega

theorem letterNoDigit {l c : Char} (letter : isDigit (caseKey l) = false)
    (read : hasKey (caseKey l) c = true) : isDigit c = false := by
  cases digit : isDigit c with
  | false => rfl
  | true =>
    have same : c = caseKey l := by rw [← beq_iff_eq.mp read, digitKey digit]
    rw [← same, digit] at letter
    cases letter

end PageAudit.Text
