import PageAudit.Check.Table
import PageAudit.Proofs.Http.Message
/-!
Checks on protecting headers. Each looks up a few names and passes if enough of them are filled, so
the order of the fields and the spelling of their names have no part in it, and more fields do no
harm.
-/
namespace PageAudit.Check

open Http

def withFields (s : Subject) (fields : List (String × String)) : Subject :=
  { s with headers := .ofList fields }

/-- The verdict sees no more of the headers than look-ups do, and stays a pass where no filled field
gets lost. -/
structure ByFields (f : Subject → Verdict) : Prop where
  looked : ∀ s h, (∀ name, Headers.filled? h name = s.headers.filled? name) →
    f { s with headers := h } = f s
  passes : ∀ s h, (∀ name, (s.headers.filled? name).isSome = true →
      (Headers.filled? h name).isSome = true) →
    (f s).passed = true → (f { s with headers := h }).passed = true

structure FieldsJudged (check : NamedCheck) (s : Subject) (fields : List (String × String))
    (v : Verdict) : Prop where
  ended : check.run (withFields s fields) = .ok v
  looked : ∀ fields', (∀ name, (Headers.ofList fields').get? name =
    (Headers.ofList fields).get? name) → check.run (withFields s fields') = .ok v
  rearranged : ∀ fields', Relation.ReflTransGen Headers.Rearranged fields fields' →
    check.run (withFields s fields') = .ok v
  reordered : ∀ fields', fields.Perm fields' →
    ∃ w, check.run (withFields s fields') = .ok w ∧ w.passed = v.passed
  extended : ∀ more, v.passed = true →
    ∃ w, check.run (withFields s (fields ++ more)) = .ok w ∧ w.passed = true

section
variable {f : Subject → Verdict} (s : Subject) (fields : List (String × String))

theorem policyByFields : ByFields contentSecurityPolicy where
  looked s h same := by simp only [contentSecurityPolicy, same]
  passes s h kept passed := kept policyField passed

theorem sentAlike {s : Subject} {h : Headers}
    (same : ∀ name, h.filled? name = s.headers.filled? name) :
    sent { s with headers := h } = sent s :=
  funext fun name => congrArg Option.isSome (same name)

theorem headersByFields : ByFields securityHeaders where
  looked s h same := by simp only [securityHeaders, sentAlike same]
  passes s h kept passed := by
    have enough := of_decide_eq_true passed
    exact decide_eq_true (Nat.le_trans enough (List.countP_mono_left fun name _ => kept name))

theorem baselineByFields : ByFields baselineSecurityHeaders where
  looked s h same := by simp only [baselineSecurityHeaders, sentAlike same]
  passes s h kept passed := by
    obtain ⟨name, member, filled⟩ := List.any_eq_true.mp passed
    exact List.any_eq_true.mpr ⟨name, member, kept name filled⟩

theorem ByFields.judged (byFields : ByFields f) (concern : String) :
    FieldsJudged (.sure concern f) s fields (f (withFields s fields)) := by
  have looked : ∀ fields', (∀ name, (Headers.ofList fields').get? name =
      (Headers.ofList fields).get? name) → f (withFields s fields') = f (withFields s fields) :=
    fun fields' same => byFields.looked (withFields s fields) (.ofList fields')
      fun name => Headers.filledOfGet (same name)
  constructor
  case ended => rfl
  case looked => exact fun fields' same => congrArg Except.ok (looked fields' same)
  case rearranged =>
    exact fun fields' run => congrArg Except.ok (looked fields' (Headers.rearrangedGet run))
  case reordered =>
    intro fields' order
    have filled : ∀ name, ((Headers.ofList fields').filled? name).isSome =
        ((Headers.ofList fields).filled? name).isSome := fun _ => Headers.filledPerm order
    refine ⟨_, rfl, Bool.eq_iff_iff.mpr ⟨?_, ?_⟩⟩
    · exact byFields.passes (withFields s fields') (.ofList fields) fun name => (filled name ▸ ·)
    · exact byFields.passes (withFields s fields) (.ofList fields') fun name => (filled name ▸ ·)
  case extended =>
    intro more passed
    exact ⟨_, rfl, byFields.passes (withFields s fields) (.ofList (fields ++ more))
      (fun _ => Headers.filledMore fields more) passed⟩

theorem baselineWider (passed : (contentSecurityPolicy s).passed = true ∨
    (securityHeaders s).passed = true) : (baselineSecurityHeaders s).passed = true := by
  rcases passed with policy | present
  · exact List.any_eq_true.mpr ⟨policyField, by simp, policy⟩
  · have enough : 2 ≤ [typeField, frameField, referrerField].countP (sent s) :=
      of_decide_eq_true present
    have both : (sent s typeField || sent s frameField) = true := by
      by_contra neither
      obtain ⟨noType, noFrame⟩ := Bool.or_eq_false_iff.mp (Bool.eq_false_iff.mpr neither)
      have last := List.countP_le_length (p := sent s) (l := [referrerField])
      rw [List.countP_cons_of_neg (by simp [noType]), List.countP_cons_of_neg (by simp [noFrame])]
        at enough
      exact absurd (Nat.le_trans enough last) (by decide)
    rcases Bool.or_eq_true_iff.mp both with type | frame
    · exact List.any_eq_true.mpr ⟨typeField, by simp, type⟩
    · exact List.any_eq_true.mpr ⟨frameField, by simp, frame⟩

theorem headersJudged : ∃ policy headers baseline u v w,
    checks.find? "sec-002" = some policy ∧ FieldsJudged policy s fields u ∧
    checks.find? "sec-003" = some headers ∧ FieldsJudged headers s fields v ∧
    checks.find? "sec-005" = some baseline ∧ FieldsJudged baseline s fields w ∧
    (u.passed = true ∨ v.passed = true → w.passed = true) :=
  ⟨_, _, _, _, _, _, rfl, policyByFields.judged s fields _, rfl, headersByFields.judged s fields _,
    rfl, baselineByFields.judged s fields _, baselineWider _⟩

end

end PageAudit.Check
