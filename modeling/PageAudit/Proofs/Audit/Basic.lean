import PageAudit.Audit
import PageAudit.Proofs.Evaluation
import PageAudit.Proofs.Fetch.Basic
import PageAudit.Proofs.Fetch.Faults
import PageAudit.Proofs.Rule.Selection
/-!
What an audit comes to once its site is accepted and its settings are read: the fetch alone decides
between a result that was judged, a result without a page, and no result.
-/
namespace PageAudit

instance sameOutcome {ε α : Type} [DecidableEq ε] [DecidableEq α] : DecidableEq (Except ε α)
  | .ok a, .ok b => decidable_of_iff (a = b) (by simp)
  | .error e, .error f => decidable_of_iff (e = f) (by simp)
  | .ok _, .error _ => isFalse nofun
  | .error _, .ok _ => isFalse nofun

def Transport.always (r : Response) : Transport := .ofReply fun _ => ⟨0, .response r⟩

def Settings.unset : Settings :=
  ⟨10, Settings.defaultUserAgent, Settings.defaultAccept, "INFO", false⟩

theorem Settings.unsetSendable : unset.Sendable :=
  List.forall_mem_cons.mpr ⟨Fetch.writtenPlain (by decide),
    List.forall_mem_singleton.mpr (Fetch.writtenPlain (by decide))⟩

theorem environmentUnset : Settings.ofEnvironment .empty = .ok .unset := by decide +kernel

def Page.paragraph : Page := ⟨"<p>".toList, .empty, "https://a.b/", 200⟩

namespace Auditor

def ofParagraph : Auditor :=
  ⟨.always ⟨200, .empty, "<p>".toUTF8.toList⟩, Settings.ofEnvironment .empty, "now"⟩

section
variable {auditor : Auditor} {site : Option String} {clean : String} {s : Settings}

theorem analyzeRefused {e : SiteError} (refused : validateSite site = .error e)
    (token : Option String) (w : World) :
    auditor.analyze site token w = (.error (.site e), w) := by
  simp only [analyze, refused]

def judged (auditor : Auditor) (site : String) (token : Option String) (page : Page) : Analysis :=
  .ofJudged site auditor.now
    (Analysis.judgedBy (verdictOn checks (page.subject site)) (select token catalog))

theorem judgeResult (auditor : Auditor) (site : String) (token : Option String) (page : Page)
    (w : World) :
    (auditor.judge site (select token catalog) page w).1 = auditor.judged site token page := by
  unfold judge judged
  rw [← zipVerdicts]
  rfl

theorem analyzeAccepted (accepted : validateSite site = .ok clean)
    (read : auditor.settings = .ok s) (token : Option String) (w : World) :
    (auditor.analyze site token w).1 =
      match (fetch auditor.transport s clean w).1 with
      | .error (.broken fault) => .error (.broken fault)
      | .error (.failed e) =>
        .ok (.unreachable clean auditor.now (select token catalog).length e.message)
      | .ok page => .ok (auditor.judged clean token page) := by
  obtain ⟨told, -⟩ := Fetch.fetchTold auditor.transport s clean w
    (.analysisStarted clean token (select token catalog).length)
  simp only [analyze, accepted, read]
  rw [← told]
  rcases fetch auditor.transport s clean
    (w.tell (.analysisStarted clean token (select token catalog).length)) with ⟨outcome, w'⟩
  cases outcome with
  | error stop => cases stop <;> rfl
  | ok page => exact congrArg Except.ok (judgeResult ..)

theorem analyzeRequests (accepted : validateSite site = .ok clean)
    (read : auditor.settings = .ok s) (token : Option String) (w : World) :
    (auditor.analyze site token w).2.requests =
      (fetch auditor.transport s clean w).2.requests := by
  obtain ⟨-, requests⟩ := Fetch.fetchTold auditor.transport s clean w
    (.analysisStarted clean token (select token catalog).length)
  simp only [analyze, accepted, read]
  rw [← requests]
  rcases fetch auditor.transport s clean
    (w.tell (.analysisStarted clean token (select token catalog).length)) with ⟨outcome, w'⟩
  cases outcome with
  | error stop => cases stop <;> rfl
  | ok page => rfl

theorem analyzeAlike {other : Option String} {token its : Option String}
    (accepted : validateSite site = .ok clean) (too : validateSite other = .ok clean)
    (read : auditor.settings = .ok s) (same : select token catalog = select its catalog)
    (w : World) :
    (auditor.analyze site token w).1 = (auditor.analyze other its w).1 ∧
      (auditor.analyze site token w).2.requests = (auditor.analyze other its w).2.requests := by
  rw [analyzeRequests accepted read, analyzeRequests too read, analyzeAccepted accepted read,
    analyzeAccepted too read]
  simp only [judged, same, and_self]

theorem analyzeFetched {page : Page} {w : World} (accepted : validateSite site = .ok clean)
    (read : auditor.settings = .ok s) (fetched : (fetch auditor.transport s clean w).1 = .ok page)
    (token : Option String) :
    (auditor.analyze site token w).1 = .ok (auditor.judged clean token page) := by
  rw [analyzeAccepted accepted read, fetched]

end

theorem paragraphAccepted : validateSite (some "https://a.b/") = .ok "https://a.b/" := by
  decide

theorem paragraphFetched :
    (fetch ofParagraph.transport .unset "https://a.b/" .start).1 = .ok .paragraph := by
  rw [Fetch.fetchSendable Settings.unsetSendable]
  decide +kernel

end Auditor

end PageAudit
