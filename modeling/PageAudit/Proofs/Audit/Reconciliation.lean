import PageAudit.Proofs.Audit.Basic
import PageAudit.Proofs.Site
/-!
The result of an audit accounts for the rules that its token selects: each of them passed or has its
violation, and the counters and the score are those of the violations. Rules do not see each other:
a check that gives up counts against its own rule and nothing else, and an audit by a token finds
what an audit by all rules finds, as far as the token selects.
-/
namespace PageAudit

theorem acceptedTrimmed {site : Option String} {clean : String}
    (accepted : validateSite site = .ok clean) : clean = Text.trimmed (site.getD "") :=
  (siteAccepted.mp accepted).1

namespace Auditor

theorem fetchedAuditReconciles {auditor : Auditor} {s : Settings} {site : Option String}
    {clean : String} {page : Page} {w : World} (accepted : validateSite site = .ok clean)
    (read : auditor.settings = .ok s) (fetched : (fetch auditor.transport s clean w).1 = .ok page)
    (token : Option String) :
    clean = Text.trimmed (site.getD "") ∧
    ∃ a, (auditor.analyze site token w).1 = .ok a ∧
      Analysis.Reconciles (verdictOn checks (page.subject clean)) (select token catalog) clean a ∧
      (a.violations.map Violation.id).Sublist (catalog.map Rule.id) := by
  have reconciles : Analysis.Reconciles (verdictOn checks (page.subject clean))
      (select token catalog) clean (auditor.judged clean token page) :=
    Analysis.ofJudgedReconciles (selectedIdsDistinct token) (selectedAdvises token) ..
  refine ⟨acceptedTrimmed accepted, auditor.judged clean token page,
    analyzeFetched accepted read fetched token, reconciles, ?_⟩
  -- Broken rules are selected ones, and selection keeps the order of the catalog.
  rw [reconciles.ids]
  exact (List.filter_sublist.trans (selectSublist token catalog)).map Rule.id

theorem paragraphAuditReconciles :
    "https://a.b/" = Text.trimmed ((some " https://a.b/ ").getD "") ∧
    ∃ a, (ofParagraph.analyze (some " https://a.b/ ") (some "seo") .start).1 = .ok a ∧
      Analysis.Reconciles (verdictOn checks (Page.paragraph.subject "https://a.b/"))
        (select (some "seo") catalog) "https://a.b/" a ∧
      (a.violations.map Violation.id).Sublist (catalog.map Rule.id) :=
  fetchedAuditReconciles (by decide +kernel) environmentUnset (by decide +kernel) (some "seo")

end Auditor

structure Isolated (table : CheckTable) (rules : List Rule) (s : Subject) : Prop where
  count : (verdicts table rules s).length = rules.length
  alone : ∀ (others : List Rule) (i j : Nat) (r : Rule), rules[i]? = some r → others[j]? = some r →
    (verdicts table rules s)[i]? = (verdicts table others s)[j]?
  judged : ∀ (i : Nat) (r : Rule) (check : NamedCheck) (v : Verdict), rules[i]? = some r →
    table.find? r.id = some check → check.run s = .ok v →
    (verdicts table rules s)[i]? = some v
  faulted : ∀ (i : Nat) (r : Rule) (check : NamedCheck) (cause : Fault), rules[i]? = some r →
    table.find? r.id = some check → check.run s = .error cause →
    (verdicts table rules s)[i]? = some ⟨false, faultText r cause, none, none⟩
  told : Auditor.faultEvents (evaluate table rules s) =
    rules.filterMap fun r => (faultOf? table s r).map fun cause =>
      .checkFailed r.id (faultText r cause)
  built : ∀ site analyzedAt, ∃ a,
    Analysis.ofVerdicts site analyzedAt rules (verdicts table rules s) = .ok a ∧
    a.violations = (Analysis.broken (verdictOn table s) rules).map
      (fun r => .ofVerdict site r (verdictOn table s r)) ∧
    ∀ r ∈ rules, ∀ cause, faultOf? table s r = some cause → ∃ v ∈ a.violations,
      v.id = r.id ∧ v.severity = r.severity ∧ v.page = site ∧
        v.details = faultText r cause ∧ v.recommendation = r.fallback

section
variable {table : CheckTable} {s : Subject} {r : Rule}

theorem faultRaised {check : NamedCheck} {cause : Fault} (found : table.find? r.id = some check)
    (raised : check.run s = .error cause) : faultOf? table s r = some cause := by
  simp only [faultOf?, found, raised]

theorem verdictReturned {check : NamedCheck} {v : Verdict} (found : table.find? r.id = some check)
    (returned : check.run s = .ok v) : verdictOn table s r = v := by
  simp only [verdictOn, evaluateRule, found, returned]

theorem verdictsBuild (table : CheckTable) (rules : List Rule) (s : Subject)
    (site analyzedAt : String) :
    Analysis.ofVerdicts site analyzedAt rules (verdicts table rules s) =
      .ok (.ofJudged site analyzedAt (Analysis.judgedBy (verdictOn table s) rules)) := by
  rw [Analysis.ofVerdicts, if_pos (verdictsLength table rules s).symm, zipVerdicts]

theorem faultViolation {rules : List Rule} {cause : Fault} (site : String) (member : r ∈ rules)
    (gaveUp : faultOf? table s r = some cause) :
    ∃ v ∈ Analysis.violationsOf site (Analysis.judgedBy (verdictOn table s) rules),
      v.id = r.id ∧ v.severity = r.severity ∧ v.page = site ∧
        v.details = faultText r cause ∧ v.recommendation = r.fallback := by
  have verdict := verdictFaulted gaveUp
  have isBroken : r ∈ Analysis.broken (verdictOn table s) rules :=
    List.mem_filter.mpr ⟨member, by rw [verdict]; rfl⟩
  refine ⟨.ofVerdict site r (verdictOn table s r), ?_, rfl, rfl, rfl, ?_, ?_⟩
  · rw [Analysis.violationsOfJudged]
    exact List.mem_map_of_mem isBroken
  · rw [verdict]
    rfl
  · exact Violation.ofVerdictSilent (by rw [verdict])

end

theorem evaluationIsolated (table : CheckTable) (rules : List Rule) (s : Subject) :
    Isolated table rules s where
  count := verdictsLength table rules s
  alone := by
    intro others i j r here there
    rw [verdictsAt here, verdictsAt there]
  judged := by
    intro i r check v here found returned
    rw [verdictsAt here, verdictReturned found returned]
  faulted := by
    intro i r check cause here found raised
    rw [verdictsAt here, verdictFaulted (faultRaised found raised)]
  told := by
    simp only [Auditor.faultEvents, evaluate, List.filterMap_map]
    refine List.filterMap_congr fun r _ => ?_
    simp only [Function.comp_apply, outcomeFault, Option.map_map, Function.comp_def, faultMessage]
  built := by
    intro site analyzedAt
    refine ⟨_, verdictsBuild table rules s site analyzedAt, ?_, ?_⟩
    · exact Analysis.violationsOfJudged site (verdictOn table s) rules
    · exact fun r member cause gaveUp => faultViolation site member gaveUp

/- Selection and judgement commute: a rule is judged alike among the selected and among all. -/
theorem brokenSelected (judge : Rule → Verdict) (token : Option String) :
    Analysis.broken judge (select token catalog) =
      (Analysis.broken judge catalog).filter (selects token) := by
  rw [selectFilter, Analysis.broken, Analysis.broken, List.filter_filter, List.filter_filter]
  simp only [Bool.and_comm]

theorem selectedViolations (site : String) (judge : Rule → Verdict) (token : Option String) :
    Analysis.violationsOf site (Analysis.judgedBy judge (select token catalog)) =
      (Analysis.violationsOf site (Analysis.judgedBy judge catalog)).filter
        fun v => v.id ∈ (select token catalog).map Rule.id := by
  rw [Analysis.violationsOfJudged, Analysis.violationsOfJudged, brokenSelected, List.filter_map]
  congr 1
  refine List.filter_congr fun r isBroken => ?_
  have chosen := selectsById token (List.mem_of_mem_filter isBroken)
  rw [Bool.eq_iff_iff, chosen]
  simp only [Function.comp_apply, Violation.ofVerdict, decide_eq_true_eq]

theorem rulesJudgedApart (table : CheckTable) (rules : List Rule) (s : Subject) :
    Isolated table rules s ∧
    ∀ {auditor other : Auditor} {given own : Settings} {site : Option String} {clean : String}
      {page : Page} {w u : World}, validateSite site = .ok clean →
      auditor.settings = .ok given → other.settings = .ok own →
      (fetch auditor.transport given clean w).1 = .ok page →
      (fetch other.transport own clean u).1 = .ok page →
      ∀ token, ∃ part whole,
        (auditor.analyze site token w).1 = .ok part ∧
        (other.analyze site (some "all") u).1 = .ok whole ∧
        part.violations =
          whole.violations.filter fun v => v.id ∈ (select token catalog).map Rule.id := by
  refine ⟨evaluationIsolated table rules s, ?_⟩
  intro auditor other given own site clean page w u accepted read readAgain fetched fetchedAgain
    token
  refine ⟨_, _, Auditor.analyzeFetched accepted read fetched token,
    Auditor.analyzeFetched accepted readAgain fetchedAgain (some "all"), ?_⟩
  simp only [Auditor.judged, selectAll]
  exact selectedViolations clean (verdictOn checks (page.subject clean)) token

theorem paragraphRulesApart :
    let table : CheckTable :=
      [("seo-001", ⟨"title", fun _ => .error ⟨"ZeroDivisionError", "division by zero"⟩⟩)]
    Isolated table catalog (Page.paragraph.subject "https://a.b/") ∧
    ∃ part whole,
      (Auditor.ofParagraph.analyze (some "https://a.b/") (some "seo") .start).1 = .ok part ∧
      (Auditor.ofParagraph.analyze (some "https://a.b/") (some "all") .start).1 = .ok whole ∧
      part.violations =
        whole.violations.filter fun v => v.id ∈ (select (some "seo") catalog).map Rule.id := by
  intro table
  obtain ⟨isolated, filtered⟩ :=
    rulesJudgedApart table catalog (Page.paragraph.subject "https://a.b/")
  exact ⟨isolated, filtered Auditor.paragraphAccepted environmentUnset environmentUnset
    Auditor.paragraphFetched Auditor.paragraphFetched (some "seo")⟩

end PageAudit
