import PageAudit.Proofs.Pattern.Matches
import PageAudit.Proofs.Pattern.Scan
/-!
Matches that are kept. A pattern that matches where another one does, but only if the text that was
taken is of a kind, finds the texts of this kind among those that the other one finds.
-/
namespace PageAudit.Pattern

/-- One pattern takes what the other takes if that is kept, and within what is not kept nothing. -/
structure Narrows (p q : Pattern) (keeps : List Char → Bool) : Prop where
  only : ∀ {before text u}, q.matchAt? before text = some u →
    ∃ t, p.matchAt? before text = some t ∧ t.taken = u.taken ∧ keeps (text.take t.taken) = true
  kept : ∀ {before text t}, p.matchAt? before text = some t → keeps (text.take t.taken) = true →
    ∃ u, q.matchAt? before text = some u
  quiet : ∀ {before text t}, p.matchAt? before text = some t →
    keeps (text.take t.taken) = false → ∀ passed rest, text = passed ++ rest →
      passed.length < t.taken → ∀ before, q.matchAt? before rest = none

section
variable {p q : Pattern} {keeps : List Char → Bool} {before : Char} {text : List Char} {skip : Nat}
  {t : Trail}

theorem scanPassed (none : ∀ passed rest, text = passed ++ rest → passed.length < skip →
    ∀ before, p.matchAt? before rest = none) :
    p.scan 0 before text = p.scan skip before text := by
  induction text generalizing before skip with
  | nil =>
    cases skip with
    | zero => rfl
    | succ skip =>
      have empty := none [] [] rfl (Nat.succ_pos skip) before
      rw [scan, empty]
      rfl
  | cons c rest ih =>
    cases skip with
    | zero => rfl
    | succ skip =>
      have here := none [] (c :: rest) rfl (Nat.succ_pos skip) before
      have further : ∀ passed later, rest = passed ++ later → passed.length < skip →
          ∀ before, p.matchAt? before later = Option.none := by
        intro passed later whole inside
        exact none (c :: passed) later (whole ▸ rfl) (Nat.succ_lt_succ inside)
      calc p.scan 0 before (c :: rest)
        _ = p.scan 0 c rest := by rw [scan, here]
        _ = p.scan skip c rest := ih further

theorem Narrows.missed (narrows : Narrows p q keeps) (none : p.matchAt? before text = none) :
    q.matchAt? before text = .none := by
  cases found : q.matchAt? before text with
  | none => rfl
  | some u =>
    obtain ⟨t, matched, -⟩ := narrows.only found
    cases none.symm.trans matched

theorem Narrows.alike (narrows : Narrows p q keeps) (matched : p.matchAt? before text = some t)
    (keep : keeps (text.take t.taken) = true) :
    ∃ u, q.matchAt? before text = some u ∧ u.taken = t.taken := by
  obtain ⟨u, found⟩ := narrows.kept matched keep
  obtain ⟨t', matched', same, -⟩ := narrows.only found
  obtain rfl := Option.some.inj (matched.symm.trans matched')
  exact ⟨u, found, same.symm⟩

theorem Narrows.refused (narrows : Narrows p q keeps) (matched : p.matchAt? before text = some t)
    (drop : keeps (text.take t.taken) = false) : q.matchAt? before text = none := by
  cases found : q.matchAt? before text with
  | none => rfl
  | some u =>
    obtain ⟨t', matched', -, keep⟩ := narrows.only found
    obtain rfl := Option.some.inj (matched.symm.trans matched')
    cases drop.symm.trans keep

theorem scanNarrowed (narrows : Narrows p q keeps) (skip : Nat) (before : Char)
    (text : List Char) : (q.scan skip before text).map Match.text =
      ((p.scan skip before text).map Match.text).filter keeps := by
  induction text generalizing skip before with
  | nil =>
    cases skip with
    | succ skip => rfl
    | zero =>
      cases matched : p.matchAt? before [] with
      | none => rw [scan, scan, matched, narrows.missed matched]; rfl
      | some t =>
        cases keep : keeps (List.take t.taken []) with
        | true =>
          obtain ⟨u, found, same⟩ := narrows.alike matched keep
          rw [scan, scan, matched, found]
          rw [List.take_nil] at keep
          simp [Trail.found, keep]
        | false =>
          rw [scan, scan, matched, narrows.refused matched keep]
          rw [List.take_nil] at keep
          simp [Trail.found, keep]
  | cons c rest ih =>
    cases skip with
    | succ skip => exact ih skip c
    | zero =>
      cases matched : p.matchAt? before (c :: rest) with
      | none =>
        rw [scan, scan, matched, narrows.missed matched]
        exact ih 0 c
      | some t =>
        cases keep : keeps ((c :: rest).take t.taken) with
        | true =>
          obtain ⟨u, found, same⟩ := narrows.alike matched keep
          rw [scan, scan, matched, found]
          simp only [List.map_cons, Trail.found, same, List.filter_cons, keep, if_true, ih]
        -- The search goes on within a match that is not kept, and finds nothing before its end.
        | false =>
          have within : ∀ passed later, rest = passed ++ later → passed.length < t.taken - 1 →
              ∀ before, q.matchAt? before later = none := by
            intro passed later whole inside
            refine narrows.quiet matched keep (c :: passed) later (whole ▸ rfl) ?_
            rw [List.length_cons]
            omega
          have on : (q.scan (t.taken - 1) c rest).map Match.text = _ := ih (t.taken - 1) c
          rw [scan, scan, matched, narrows.refused matched keep, scanPassed within, on]
          simp only [List.map_cons, Trail.found, List.filter_cons, keep, Bool.false_eq_true,
            if_false]

theorem findAllNarrowed (narrows : Narrows p q keeps) (text : List Char) :
    q.findAll text = (p.findAll text).filter keeps := by
  rw [findAll, findAll, matchesScan, matchesScan]
  exact scanNarrowed narrows 0 ' ' text

end

end PageAudit.Pattern
