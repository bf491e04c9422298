import PageAudit.Proofs.Audit.Outcome
import PageAudit.Proofs.Fetch.Warning
/-!
The warnings of an audit whose page could not be fetched. Its result says how the fetch failed, and
so does a warning of the fetch, unless the fetch ran out of time by its own clock.
-/
namespace PageAudit

def Settings.brief : Settings := ⟨10, "a", "b", "INFO", false⟩

theorem levelLeast (l : Level) : Level.info.rank ≤ l.rank := by
  cases l <;> decide

theorem toldAll {rank : Nat} (low : rank ≤ Level.info.rank) (events : List Event) :
    told rank events = events :=
  List.filter_eq_self.mpr fun e _ => decide_eq_true (low.trans (levelLeast e.level))

namespace Auditor

section
variable {auditor : Auditor} {site token : Option String} {clean : String} {s : Settings}
  {w : World} {a : Analysis}

theorem judgedReachable {page : Page} {v : Violation}
    (told : v ∈ (auditor.judged clean token page).violations) : v.id ≠ "connection-error" := by
  have reconciles : Analysis.Reconciles (verdictOn checks (page.subject clean))
      (select token catalog) clean (auditor.judged clean token page) :=
    Analysis.ofJudgedReconciles (selectedIdsDistinct token) (selectedAdvises token) ..
  have named : v.id ∈ (auditor.judged clean token page).violations.map Violation.id :=
    List.mem_map_of_mem told
  rw [reconciles.ids] at named
  have known : v.id ∈ catalog.map Rule.id :=
    ((List.filter_sublist.trans (selectSublist token catalog)).map Rule.id).subset named
  have free : "connection-error" ∉ catalog.map Rule.id := by decide
  exact fun same => free (same ▸ known)

theorem unreachableFailed (ended : (auditor.analyze site token w).1 = .ok a)
    (unreachable : ∃ v ∈ a.violations, v.id = "connection-error") :
    ∃ clean s e, validateSite site = .ok clean ∧ auditor.settings = .ok s ∧
      (fetch auditor.transport s clean w).1 = .error (.failed e) ∧
      a = .unreachable clean auditor.now (select token catalog).length e.message := by
  cases accepted : validateSite site with
  | error e =>
    simp only [analyze, accepted, reduceCtorEq] at ended
  | ok clean =>
    cases read : auditor.settings with
    | error e => simp only [analyze, accepted, read, reduceCtorEq] at ended
    | ok s =>
      rw [analyzeAccepted accepted read] at ended
      cases outcome : (fetch auditor.transport s clean w).1 with
      | ok page =>
        rw [outcome] at ended
        cases ended
        obtain ⟨v, told, named⟩ := unreachable
        exact absurd named (judgedReachable told)
      | error stop =>
        rw [outcome] at ended
        cases stop with
        | broken fault => cases ended
        | failed e =>
          cases ended
          exact ⟨clean, s, e, rfl, rfl, outcome, rfl⟩

theorem analyzeWarned {e : FetchError} (accepted : validateSite site = .ok clean)
    (read : auditor.settings = .ok s)
    (failed : (fetch auditor.transport s clean w).1 = .error (.failed e)) (token : Option String) :
    ∃ new, (auditor.analyze site token w).2.events = w.events ++ new ∧
      Fetch.Warned auditor.transport s clean w.clock w.requests.length
        (new.filter Event.isFetchWarning) e := by
  have started := (Fetch.fetchTold auditor.transport s clean w
    (.analysisStarted clean token (select token catalog).length)).1
  obtain ⟨new, events, warned⟩ := Fetch.fetchWarned (started.trans failed)
  refine ⟨.analysisStarted clean token (select token catalog).length :: new ++
    [.fetchFailed clean e.message], ?_, ?_⟩
  · simp only [analyze, accepted, read]
    cases fetched : fetch auditor.transport s clean
      (w.tell (.analysisStarted clean token (select token catalog).length)) with
    | mk outcome u =>
      rw [fetched, failed] at started
      rw [fetched] at events
      cases started
      simp only [giveUp, World.tell] at events ⊢
      rw [events]
      simp
  · simpa [World.tell, Event.isFetchWarning, Event.teller] using warned

end

theorem failedFetchWarned {auditor : Auditor} {site token : Option String} {w : World}
    {a : Analysis} (ended : (auditor.analyze site token w).1 = .ok a)
    (unreachable : ∃ v ∈ a.violations, v.id = "connection-error")
    {rank : Nat} (low : rank ≤ Level.info.rank) :
    ∃ clean s e new, validateSite site = .ok clean ∧ auditor.settings = .ok s ∧
      (fetch auditor.transport s clean w).1 = .error (.failed e) ∧
      a = .unreachable clean auditor.now (select token catalog).length e.message ∧
      (auditor.analyze site token w).2.events = w.events ++ new ∧
      (¬Fetch.Overruns auditor.transport s clean w.clock w.requests.length →
        ∃ event, (told rank new).filter Event.isFetchWarning = [event] ∧
          Fetch.Reports auditor.transport s clean w.clock w.requests.length event e) ∧
      (Fetch.Overruns auditor.transport s clean w.clock w.requests.length →
        (told rank new).filter Event.isFetchWarning = [] ∧ e = .timeout s.timeout) := by
  obtain ⟨clean, s, e, accepted, read, failed, result⟩ := unreachableFailed ended unreachable
  obtain ⟨new, events, warned⟩ := analyzeWarned accepted read failed token
  refine ⟨clean, s, e, new, accepted, read, failed, result, events, ?_⟩
  rw [toldAll low]
  generalize new.filter Event.isFetchWarning = warnings at warned ⊢
  cases warned with
  | silent overruns => exact ⟨(absurd overruns ·), fun _ => ⟨rfl, rfl⟩⟩
  | once inTime reports => exact ⟨fun _ => ⟨_, rfl, reports⟩, (absurd · inTime)⟩

theorem lostPageWarned :
    let moved : Transport := .ofReplies ⟨1, .response ⟨301, .ofList [("Location", "//c.d/")], []⟩⟩
      [⟨1, .failure "ConnectError" ""⟩]
    let auditor : Auditor := ⟨moved, .ok .brief, "now"⟩
    ∃ a new event, (auditor.analyze (some "https://a.b/") (some "seo") .start).1 = .ok a ∧
      (∃ v ∈ a.violations, v.id = "connection-error") ∧
      (auditor.analyze (some "https://a.b/") (some "seo") .start).2.events =
        World.start.events ++ new ∧
      (told Level.info.rank new).filter Event.isFetchWarning = [event] ∧
      Fetch.Reports auditor.transport .brief "https://a.b/" 0 0 event
        (.connection "ConnectError") := by
  intro moved auditor
  have failed : (fetch auditor.transport .brief "https://a.b/" .start).1 =
      .error (.failed (.connection "ConnectError")) := by
    decide +kernel
  have ended := analyzeFailed paragraphAccepted rfl failed (some "seo")
  have unreachable : ∃ v ∈ (Analysis.unreachable "https://a.b/" auditor.now
      (select (some "seo") catalog).length "ConnectError").violations,
      v.id = "connection-error" :=
    ⟨_, List.mem_singleton_self _, rfl⟩
  obtain ⟨clean, s, e, new, accepted, read, stopped, -, events, inTime, overran⟩ :=
    failedFetchWarned ended unreachable (Nat.le_refl _)
  obtain rfl := Except.ok.inj (paragraphAccepted.symm.trans accepted)
  obtain rfl := Except.ok.inj read
  obtain rfl : FetchError.connection "ConnectError" = e := by
    cases failed.symm.trans stopped
    rfl
  have early : ¬Fetch.Overruns auditor.transport .brief "https://a.b/" World.start.clock 0 := by
    intro overruns
    cases (overran overruns).2
  obtain ⟨event, warned, reports⟩ := inTime early
  exact ⟨_, new, event, ended, unreachable, events, warned, reports⟩

theorem latePageUnwarned :
    let late : Transport := .ofReply fun _ => ⟨11, .response ⟨200, .empty, []⟩⟩
    let moved : Transport :=
      .ofReply fun _ => ⟨10, .response ⟨301, .ofList [("Location", "/b")], []⟩⟩
    let ended (t : Transport) :=
      (Auditor.mk t (.ok .brief) "now").analyze (some "https://a.b/") (some "none-such") .start
    ∀ t ∈ [late, moved],
      (ended t).1.toOption.map (fun a => a.violations.map Violation.id) =
        some ["connection-error"] ∧
      (told Level.info.rank (ended t).2.events).filter Event.isFetchWarning = [] := by
  decide +kernel

end Auditor

end PageAudit
