import PageAudit.Proofs.Audit.Basic
import PageAudit.Proofs.Fetch.Faults
/-!
How an audit ends where its transport breaks nothing. A site that is refused costs no request, a
fetch that fails has a result of its own, and only a derailed fetch leaves the audit without one.
-/
namespace PageAudit.Auditor

section
variable {auditor : Auditor} {s : Settings} {site : Option String} {clean : String} {w : World}

theorem analyzeFailed {e : FetchError} (accepted : validateSite site = .ok clean)
    (read : auditor.settings = .ok s)
    (failed : (fetch auditor.transport s clean w).1 = .error (.failed e)) (token : Option String) :
    (auditor.analyze site token w).1 =
      .ok (.unreachable clean auditor.now (select token catalog).length e.message) := by
  rw [analyzeAccepted accepted read, failed]

theorem analyzeBroken {fault : Fault} (accepted : validateSite site = .ok clean)
    (read : auditor.settings = .ok s)
    (broken : (fetch auditor.transport s clean w).1 = .error (.broken fault))
    (token : Option String) : (auditor.analyze site token w).1 = .error (.broken fault) := by
  rw [analyzeAccepted accepted read, broken]

theorem analyzeErrors {e : AuditError} (accepted : validateSite site = .ok clean)
    (read : auditor.settings = .ok s) (token : Option String)
    (ended : (auditor.analyze site token w).1 = .error e) :
    ∃ fault, e = .broken fault ∧
      (fetch auditor.transport s clean w).1 = .error (.broken fault) := by
  cases outcome : (fetch auditor.transport s clean w).1 with
  | ok page =>
    rw [analyzeFetched accepted read outcome] at ended
    cases ended
  | error stop =>
    cases stop with
    | failed failure =>
      rw [analyzeFailed accepted read outcome] at ended
      cases ended
    | broken fault =>
      rw [analyzeBroken accepted read outcome] at ended
      exact ⟨fault, (Except.error.inj ended).symm, rfl⟩

theorem analyzeBreaks (accepted : validateSite site = .ok clean) (read : auditor.settings = .ok s)
    (token : Option String) :
    (∃ fault, (auditor.analyze site token w).1 = .error (.broken fault)) ↔
      Fetch.Derailed auditor.transport s clean w.clock w.requests.length ∨
        Fetch.Struck auditor.transport s clean w.clock w.requests.length := by
  rw [← fetchBreaks]
  constructor
  · rintro ⟨fault, broken⟩
    obtain ⟨_, ⟨rfl⟩, stopped⟩ := analyzeErrors accepted read token broken
    exact ⟨fault, stopped⟩
  · rintro ⟨fault, stopped⟩
    exact ⟨fault, analyzeBroken accepted read stopped token⟩

theorem analyzeEnds (accepted : validateSite site = .ok clean) (read : auditor.settings = .ok s)
    (honest : auditor.transport.Honest) (token : Option String) :
    (∃ a, (auditor.analyze site token w).1 = .ok a) ↔
      ¬Fetch.Derailed auditor.transport s clean w.clock w.requests.length := by
  rw [← fetchBroken honest]
  constructor
  · rintro ⟨a, result⟩ ⟨fault, broken⟩
    cases result.symm.trans (analyzeBroken accepted read broken token)
  · intro whole
    cases ended : (auditor.analyze site token w).1 with
    | ok a => exact ⟨a, rfl⟩
    | error e =>
      obtain ⟨fault, _, broken⟩ := analyzeErrors accepted read token ended
      exact absurd ⟨fault, broken⟩ whole

end

theorem auditOutcomes {auditor : Auditor} {s : Settings} (read : auditor.settings = .ok s)
    (honest : auditor.transport.Honest) (site token : Option String) (w : World) :
    (∀ e, (auditor.analyze site token w).1 = .error (.site e) ↔ validateSite site = .error e) ∧
    (∀ e, validateSite site = .error e → (auditor.analyze site token w).2 = w) ∧
    (∀ e, (auditor.analyze site token w).1 ≠ .error (.settings e)) ∧
    ∀ clean, validateSite site = .ok clean →
      ((∃ a, (auditor.analyze site token w).1 = .ok a) ↔
        ¬Fetch.Derailed auditor.transport s clean w.clock w.requests.length) ∧
      ∀ e, (fetch auditor.transport s clean w).1 = .error (.failed e) →
        ∃ a v, (auditor.analyze site token w).1 = .ok a ∧ a.score = 0 ∧ a.violations = [v] ∧
          v.id = "connection-error" ∧ v.details = e.message ∧
          a.summary = ⟨(select token catalog).length, 0, 1, 0, 0⟩ := by
  cases checked : validateSite site with
  | error e =>
    simp only [analyzeRefused checked token w, reduceCtorEq]
    simp
  | ok clean =>
    have broken := fun e => analyzeErrors (e := e) (w := w) checked read token
    refine ⟨fun e => iff_of_false ?_ nofun, nofun, fun e ended => ?_, ?_⟩
    · intro ended
      obtain ⟨_, unlike, _⟩ := broken _ ended
      cases unlike
    · obtain ⟨_, unlike, _⟩ := broken _ ended
      cases unlike
    · rintro _ ⟨rfl⟩
      refine ⟨analyzeEnds checked read honest token, fun e failed => ?_⟩
      exact ⟨_, _, analyzeFailed checked read failed token, rfl, rfl, rfl, rfl, rfl⟩

theorem missingPageOutcome :
    let auditor : Auditor := ⟨.always ⟨404, .empty, []⟩, Settings.ofEnvironment .empty, "now"⟩
    ¬Fetch.Derailed auditor.transport .unset "https://a.b/" World.start.clock 0 ∧
    ∃ a v, (auditor.analyze (some "https://a.b/") (some "seo") .start).1 = .ok a ∧
      a.score = 0 ∧ a.violations = [v] ∧ v.id = "connection-error" ∧
      v.details = FetchError.message (.status 404 "Not Found") ∧
      a.summary = ⟨(select (some "seo") catalog).length, 0, 1, 0, 0⟩ := by
  intro auditor
  have failed : (fetch auditor.transport .unset "https://a.b/" .start).1 =
      .error (.failed (.status 404 "Not Found")) := by
    rw [Fetch.fetchSendable Settings.unsetSendable]
    decide +kernel
  have honest : auditor.transport.Honest := fun _ _ => nofun
  obtain ⟨_, _, _, accepted⟩ :=
    auditOutcomes environmentUnset honest (some "https://a.b/") (some "seo") .start
  obtain ⟨ends, unreachable⟩ := accepted "https://a.b/" paragraphAccepted
  obtain ⟨a, v, result, said⟩ := unreachable _ failed
  exact ⟨ends.mp ⟨a, result⟩, a, v, result, said⟩

theorem accentedAgentBreaks :
    let s : Settings := { Settings.unset with userAgent := "é" }
    let auditor : Auditor := ⟨.always ⟨200, .empty, []⟩, .ok s, "now"⟩
    Number.Double.less 0 s.timeout = true ∧ auditor.transport.Honest ∧
    validateSite (some "https://a.b/") = .ok "https://a.b/" ∧
    (auditor.analyze (some "https://a.b/") (some "none-such") .start).1 =
      .error (.broken ⟨"UnicodeEncodeError", "'ascii' codec can't encode character '\\xe9' in " ++
        "position 0: ordinal not in range(128)"⟩) := by
  intro s auditor
  have broken : (fetch auditor.transport s "https://a.b/" .start).1 =
      .error (.broken ⟨"UnicodeEncodeError", "'ascii' codec can't encode character '\\xe9' in " ++
        "position 0: ordinal not in range(128)"⟩) := by
    decide +kernel
  exact ⟨by decide +kernel, fun _ _ => nofun, paragraphAccepted,
    analyzeBroken paragraphAccepted rfl broken (some "none-such")⟩

end PageAudit.Auditor
