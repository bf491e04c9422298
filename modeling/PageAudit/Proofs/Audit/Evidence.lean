import PageAudit.Proofs.Audit.Basic
import PageAudit.Proofs.Check.Evidence
import PageAudit.Proofs.Check.Faults
/-!
The places that a result tells of. A violation takes its evidence from the verdict on its rule, so
its snippet and its line are those of the page that was fetched.
-/
namespace PageAudit

theorem verdictShown (s : Subject) (r : Rule) : Shown s (verdictOn checks s r).evidence := by
  unfold verdictOn evaluateRule
  cases found : checks.find? r.id with
  | none =>
    dsimp only [Evaluation.withoutCheck]
    cases Evaluation.theme? r.category with
    | none => exact .nothing
    | some theme => cases theme <;> exact .nothing
  | some check =>
    dsimp only
    cases ended : check.run s with
    | error cause => exact .nothing
    | ok v => exact checksLocating _ (checkListed found) s v ended

inductive Violation.PlacedIn (markup : List Char) (v : Violation) : Prop where
  | nowhere (snippet : v.toJson.get? "codeSnippet" = some .null)
      (line : v.toJson.get? "lineNumber" = some .null)
  | at (e : Evidence) (located : Locates markup e)
      (snippet : v.toJson.get? "codeSnippet" = some (.string e.snippet))
      (line : v.toJson.get? "lineNumber" = some (.nat e.line))

theorem Violation.placedShown {s : Subject} {v : Violation} (shown : Shown s v.evidence) :
    v.PlacedIn s.markup := by
  have snippet := v.snippetField
  have line := v.lineField
  cases evidence : v.evidence with
  | none =>
    rw [evidence] at snippet line
    exact .nowhere snippet line
  | some e =>
    rw [evidence] at snippet line
    exact .at e (shown e evidence) snippet line

theorem judgedPlaced (auditor : Auditor) (site : String) (token : Option String) (page : Page) :
    ∀ v ∈ (auditor.judged site token page).violations, v.PlacedIn page.markup := by
  intro v member
  change v ∈ Analysis.violationsOf site _ at member
  rw [Analysis.violationsOfJudged] at member
  obtain ⟨r, -, rfl⟩ := List.mem_map.mp member
  exact Violation.placedShown (s := page.subject site) (verdictShown _ r)

theorem evidenceLocated :
    (∀ id check, checks.find? id = some check → ∀ s v, check.run s = .ok v →
      ∀ e, v.evidence = some e → Locates s.markup e) ∧
    ∀ (auditor : Auditor) settings site clean page w, validateSite site = .ok clean →
      auditor.settings = .ok settings →
      (fetch auditor.transport settings clean w).1 = .ok page →
      ∀ token, ∃ a, (auditor.analyze site token w).1 = .ok a ∧
        ∀ v ∈ a.violations, v.PlacedIn page.markup := by
  refine ⟨fun id check found => checksLocating _ (checkListed found), ?_⟩
  intro auditor settings site clean page w accepted read fetched token
  exact ⟨auditor.judged clean token page, Auditor.analyzeFetched accepted read fetched token,
    judgedPlaced auditor clean token page⟩

theorem bareHtmlEvidenceLocated :
    let auditor : Auditor :=
      ⟨.always ⟨200, .empty, "\n <html>".toUTF8.toList⟩, .ok .unset, "now"⟩
    let page : Page := ⟨"\n <html>".toList, .empty, "https://a.b/", 200⟩
    let e : Evidence := ⟨"<html>", 2⟩
    (Check.language (page.subject "https://a.b/")).evidence = some e ∧ Locates page.markup e ∧
    ∃ a, (auditor.analyze (some "https://a.b/") (some "w3c") .start).1 = .ok a ∧
      ∀ v ∈ a.violations, v.PlacedIn page.markup := by
  intro auditor page e
  have shows : (Check.language (page.subject "https://a.b/")).evidence = some e := by
    decide +kernel
  have fetched : (fetch auditor.transport .unset "https://a.b/" .start).1 = .ok page := by
    rw [Fetch.fetchSendable Settings.unsetSendable]
    decide +kernel
  obtain ⟨ofCheck, ofAudit⟩ := evidenceLocated
  exact ⟨shows, ofCheck "html-002" _ rfl (page.subject "https://a.b/") _ rfl e shows,
    ofAudit auditor .unset _ _ page .start Auditor.paragraphAccepted rfl fetched _⟩

end PageAudit
