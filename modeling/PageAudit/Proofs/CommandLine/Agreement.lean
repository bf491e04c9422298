import PageAudit.Proofs.CommandLine.Scan
import PageAudit.Proofs.Service.Order
/-!
A scan on the command line and a call of the service that ask for the same audit. Both accept one
address and select the same rules, so they send the same requests and end alike.
-/
namespace PageAudit.CommandLine

structure Agrees (finish : Finish) (answered : Service.Reply × World) : Prop where
  exitCode : finish.exitCode = 0
  status : answered.1.status = 200
  body : ∃ body, Json.parse none finish.printed = .ok body ∧ answered.1.content = .json body
  requests : finish.world.requests = answered.2.requests

theorem scanAgrees {given : Setting} (honest : given.transport.Honest) {s : Settings}
    (read : Settings.ofEnvironment given.environment = .ok s) {url clean : String}
    (web : NamesWeb url) (accepted : validateSite (some url) = .ok clean) (filter : String) :
    (∀ e, levelRank s.logLevel = .error e →
      run given ["scan", url, "--source", filter, "--json"] = .error (.level e)) ∧
    (Service.Asks (Service.callFor url filter) .analyze ∧
      Service.Order.ofCall (Service.callFor url filter) = .ok ⟨some url, some filter⟩) ∧
    ∀ {rank : Nat} {call : Service.Call}, levelRank s.logLevel = .ok rank →
      Service.Asks call .analyze → Service.Order.ofCall call = .ok ⟨some url, some filter⟩ →
      (¬Fetch.Derailed given.transport s clean World.start.clock 0 →
        ∃ finish, run given ["scan", url, "--source", filter, "--json"] = .ok finish ∧
          Agrees finish (Service.answer (given.auditor s) call)) ∧
      (Fetch.Derailed given.transport s clean World.start.clock 0 →
        ∃ fault, run given ["scan", url, "--source", filter, "--json"] = .error (.broken fault) ∧
          (Service.answer (given.auditor s) call).1.status = 500) := by
  refine ⟨fun e unknown => runUnleveled read unknown .scan _,
    ⟨Service.callForAsks url filter, Service.callForRead url filter⟩, ?_⟩
  intro rank call level asks order
  have known : (given.auditor s).settings = .ok s := rfl
  have normalized := acceptedNormalized web accepted
  have ordered : Service.Accepted call ⟨some url, some filter⟩ clean := ⟨order, accepted⟩
  have breaks : Service.Breaks (given.auditor s) s clean ↔
      Fetch.Derailed given.transport s clean World.start.clock 0 := Service.breaksHonest honest
  -- Both select the same rules, so the two audits end alike and send the same requests.
  obtain ⟨alike, sent⟩ := Auditor.analyzeAlike normalized accepted known
    (Service.tokenSelects (some url) filter).symm .start
  have opened := Service.openStatus call (Service.analyze (given.auditor s) call).1
  have shown := Service.openContent call (Service.analyze (given.auditor s) call).1
  rw [runScan read level web filter, Service.answerAnalyze asks, ← breaks]
  dsimp only
  rcases Service.acceptedReply known ordered with
    ⟨broken, status⟩ | ⟨whole, status, a, result, content⟩
  · refine ⟨fun whole => absurd broken whole, fun _ => ?_⟩
    have stopped := (Auditor.analyzeBreaks (w := .start) normalized known (some filter)).mpr broken
    obtain ⟨fault, ended⟩ := stopped
    exact ⟨fault, auditBreaks ended, opened.trans status⟩
  · refine ⟨fun _ => ?_, fun broken => absurd broken whole⟩
    dsimp only at result
    rw [← alike] at result
    refine ⟨_, auditPrints result, ?_⟩
    constructor
    case exitCode => rfl
    case status => exact opened.trans status
    case body => exact ⟨_, jsonPrinted a _, shown.trans content⟩
    case requests =>
      dsimp only [Finish.wrote]
      rw [Service.orderedRequests (given.auditor s) order, sent]

theorem paragraphScanAgrees :
    let given : Setting := ⟨.always ⟨200, .empty, "<p>".toUTF8.toList⟩, .empty, "now"⟩
    ∃ finish, run given ["scan", "https://a.b/ ", "--source", "", "--json"] = .ok finish ∧
      Agrees finish
        (Service.answer (given.auditor .unset) (Service.callFor "https://a.b/ " "")) := by
  intro given
  have honest : given.transport.Honest := fun _ _ => nofun
  have web : NamesWeb "https://a.b/ " := .inr (by decide +kernel)
  have accepted : validateSite (some "https://a.b/ ") = .ok "https://a.b/" := by decide +kernel
  have level : levelRank Settings.unset.logLevel = .ok 20 := by decide +kernel
  have fetched : ¬Fetch.Derailed given.transport .unset "https://a.b/" World.start.clock 0 := by
    rintro derailed
    obtain ⟨fault, broken⟩ := (fetchBroken honest .unset "https://a.b/" .start).mpr derailed
    cases broken.symm.trans Auditor.paragraphFetched
  obtain ⟨-, ⟨asks, order⟩, agrees⟩ := scanAgrees honest environmentUnset web accepted ""
  exact (agrees level asks order).1 fetched

theorem accentedAgentUnprinted :
    let given : Setting :=
      ⟨.always ⟨200, .empty, []⟩, ⟨[("WEB_INSPECTOR_USER_AGENT", "é")]⟩, "now"⟩
    let s : Settings := { Settings.unset with userAgent := "é" }
    given.transport.Honest ∧ Settings.ofEnvironment given.environment = .ok s ∧
    levelRank s.logLevel = .ok 20 ∧ NamesWeb "https://a.b/" ∧
    validateSite (some "https://a.b/") = .ok "https://a.b/" ∧
    run given ["scan", "https://a.b/", "--source", "none-such", "--json"] =
      .error (.broken ⟨"UnicodeEncodeError", "'ascii' codec can't encode character '\\xe9' in " ++
        "position 0: ordinal not in range(128)"⟩) := by
  intro given s
  have read : Settings.ofEnvironment given.environment = .ok s := by decide +kernel
  have level : levelRank s.logLevel = .ok 20 := by decide +kernel
  have web : NamesWeb "https://a.b/" := .inr (by decide +kernel)
  have broken : (fetch given.transport s "https://a.b/" .start).1 =
      .error (.broken ⟨"UnicodeEncodeError", "'ascii' codec can't encode character '\\xe9' in " ++
        "position 0: ordinal not in range(128)"⟩) := by
    decide +kernel
  refine ⟨fun _ _ => nofun, read, level, web, Auditor.paragraphAccepted, ?_⟩
  rw [runScan read level web]
  have normalized := acceptedNormalized web Auditor.paragraphAccepted
  have known : (given.auditor s).settings = .ok s := rfl
  exact auditBreaks (Auditor.analyzeBroken normalized known broken (some "none-such"))

end PageAudit.CommandLine
