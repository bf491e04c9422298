import PageAudit.Evaluation
import PageAudit.Proofs.Check.Faults
/-!
When a check passes. A fault counts as a failure, and where the excerpt is taken from has no part in
the outcome.
-/
namespace PageAudit

def passedBy : Except CheckError Verdict → Bool
  | .ok v => v.passed
  | .error _ => false

def NamedCheck.passes (check : NamedCheck) (s : Subject) : Bool :=
  match check.run s with
  | .ok v => v.passed
  | .error _ => false

theorem failingPasses (concern : String) (f : Subject → Except CheckError Verdict) (s : Subject) :
    (NamedCheck.failing concern f).passes s = passedBy (f s) := by
  simp only [NamedCheck.passes, NamedCheck.failing, Check.ofErrors, passedBy]
  cases f s <;> rfl

theorem evaluatePassed (table : CheckTable) (r : Rule) (s : Subject) :
    (evaluateRule table r s).verdict.passed =
      match table.find? r.id with
      | none => (Evaluation.withoutCheck r s).passed
      | some check => check.passes s := by
  unfold evaluateRule NamedCheck.passes
  cases table.find? r.id with
  | none => rfl
  | some check =>
    dsimp only
    cases check.run s <;> rfl

namespace Check

variable (s : Subject)

/- Whatever the last step of a check that ends gives, the outcome may not depend on it. -/
theorem passedAfter {α : Type} {x : Except CheckError α} {f : α → Verdict} {v : Verdict}
    {outcome : Bool} (ended : (do let a ← x; return f a) = .ok v)
    (same : ∀ a, (f a).passed = outcome) : v.passed = outcome := by
  obtain ⟨a, -, finished⟩ := bindOk.mp ended
  obtain rfl := Except.ok.inj finished
  exact same a

theorem altTextPasses :
    passedBy (altText s) =
      ((s.findAll Pattern.imgTag).filter fun img => !imgWithAlt.occursIn img).isEmpty := by
  obtain ⟨v, ended⟩ := altTextSure s
  rw [ended]
  exact passedAfter ended fun _ => rfl

theorem layoutShiftPasses :
    shareAbove (s.count Pattern.imgTag == 0) (Number.nearest (4 / 5)) (s.count sizedImg)
      (s.count Pattern.imgTag) = .ok (passedBy (layoutShift s)) := by
  obtain ⟨v, ended⟩ := layoutShiftSure s
  obtain ⟨above, share, later⟩ := bindOk.mp ended
  have passed : v.passed = above := passedAfter later fun _ => rfl
  rw [ended, share]
  exact congrArg Except.ok passed.symm

theorem renderBlockingPasses :
    passedBy (renderBlocking s) =
      ((s.findAll blockingScript).isEmpty && (s.findAll blockingStylesheet).isEmpty) := by
  obtain ⟨v, ended⟩ := renderBlockingSure s
  rw [ended]
  unfold renderBlocking at ended
  extract_lets at ended
  split at ended
  · exact passedAfter ended fun _ => rfl
  · exact passedAfter ended fun _ => rfl

def fontSizes (s : Subject) : Except CheckError (List Nat) :=
  (fontSize.matches? s.markup).mapM fun m => readNumber m.group

theorem touchTargetsPasses :
    passedBy (touchTargets s) =
      match fontSizes s with
      | .ok sizes => decide (sizes.countP (· < 14) < 5)
      | .error _ => false := by
  unfold touchTargets fontSizes
  cases (fontSize.matches? s.markup).mapM fun m => readNumber m.group <;> rfl

end Check

end PageAudit
