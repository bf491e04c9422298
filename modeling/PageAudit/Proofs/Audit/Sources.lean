import PageAudit.Proofs.Audit.Basic
import PageAudit.Proofs.Rule.Selection
import PageAudit.Proofs.Text.Case
import PageAudit.Rule.Source
import PageAudit.Service.Basic
/-!
Ids of sources as tokens. A token looks at ids and citations of rules, a source at its list of ids,
so the two select alike only where each rule is picked exactly if it is listed. An audit takes the id
of a source as any token, so it judges the rules of the source only there.
-/
namespace PageAudit

def picksAscii (token : String) (r : Rule) : Bool :=
  (Text.asciiChars token).isPrefixOf (Text.asciiChars r.id) ||
    Text.holds ((Text.asciiChars token).map Char.toLower)
      ((Text.asciiChars r.source).map Char.toLower)

theorem picksInAscii {token : String} {r : Rule} (tokenAscii : Text.isAscii token = true)
    (ruleAscii : Text.isAscii r.id = true ∧ Text.isAscii r.source = true) :
    picks token (Text.lowercase token) r = picksAscii token r := by
  obtain ⟨idAscii, sourceAscii⟩ := ruleAscii
  rw [picks, picksAscii, Text.startsWith, Text.mentions, (Text.asciiText tokenAscii).1,
    (Text.asciiText idAscii).1, Text.lowercaseChars tokenAscii, Text.lowercaseChars sourceAscii]

theorem filtersAgree {α : Type} (p q : α → Bool) (items : List α) :
    items.filter p = items.filter q ↔ ∀ x ∈ items, p x = true ↔ q x = true := by
  constructor
  · intro same x member
    have inBoth : x ∈ items.filter p ↔ x ∈ items.filter q := by rw [same]
    simpa only [List.mem_filter, member, true_and] using inBoth
  · exact fun agree => List.filter_congr fun x member => Bool.eq_iff_iff.mpr (agree x member)

namespace RuleSource

theorem listsNoneOnlyAll : ∀ s ∈ all, s.id ≠ "" ∧ (s.ruleIds = [] ↔ s.id = "all") := by
  decide

theorem idSelects {s : RuleSource} (offered : s ∈ all) (rules : List Rule) :
    PageAudit.select (some s.id) rules = s.select rules ↔
      s.ruleIds = [] ∨
        ∀ r ∈ rules, picks s.id (Text.lowercase s.id) r = true ↔ r.id ∈ s.ruleIds := by
  obtain ⟨named, everything⟩ := listsNoneOnlyAll s offered
  by_cases unlisted : s.ruleIds = []
  · have whole : s.select rules = rules := by rw [select, unlisted]; rfl
    rw [everything.mp unlisted, whole, selectAll]
    exact iff_of_true rfl (.inl unlisted)
  · have narrows : (s.id.isEmpty || s.id == "all") = false := by
      have notAll : s.id ≠ "all" := fun same => unlisted (everything.mpr same)
      simp [notAll, named]
    have listed : s.ruleIds.isEmpty = false := by simpa using unlisted
    simp only [PageAudit.select, select, narrows, listed, Bool.false_eq_true, if_false]
    rw [filtersAgree]
    simp only [unlisted, false_or, List.contains_iff_mem]

theorem catalogCitations :
    (∀ r ∈ catalog, Text.isAscii r.id = true ∧ Text.isAscii r.source = true) ∧
    ∀ s ∈ all, Text.isAscii s.id = true ∧
      ((s.ruleIds = [] ∨ ∀ r ∈ catalog, picksAscii s.id r = true ↔ r.id ∈ s.ruleIds) ↔
        s.id ∈ ["all", "wcag", "seo", "ux", "pwa"]) ∧
      (s.id = "core-web-vitals" → ∀ r ∈ catalog, picksAscii s.id r = false) := by
  -- The sources are looked at in parts, each of which is forgotten before the next one.
  have parts : all = all.take 2 ++ ((all.drop 2).take 2 ++ ((all.drop 4).take 4 ++
      ((all.drop 8).take 5 ++ all.drop 13))) := rfl
  refine ⟨by decide +kernel, ?_⟩
  rw [parts]
  simp only [List.forall_mem_append]
  refine ⟨?_, ?_, ?_, ?_, ?_⟩
  all_goals decide +kernel

theorem idPicks {s : RuleSource} (offered : s ∈ all) {r : Rule} (member : r ∈ catalog) :
    picks s.id (Text.lowercase s.id) r = picksAscii s.id r :=
  picksInAscii (catalogCitations.2 s offered).1 (catalogCitations.1 r member)

theorem idSelectsCatalog {s : RuleSource} (offered : s ∈ all) :
    PageAudit.select (some s.id) catalog = s.select catalog ↔
      s.id ∈ ["all", "wcag", "seo", "ux", "pwa"] := by
  rw [idSelects offered, ← (catalogCitations.2 s offered).2.1]
  refine or_congr_right (forall₂_congr fun r member => ?_)
  rw [idPicks offered member]

theorem coreWebVitalsPicksNone {s : RuleSource} (offered : s ∈ all)
    (named : s.id = "core-web-vitals") : PageAudit.select (some s.id) catalog = [] := by
  have narrows : (s.id.isEmpty || s.id == "all") = false := by rw [named]; decide
  simp only [PageAudit.select, narrows, Bool.false_eq_true, if_false, List.filter_eq_nil_iff]
  intro r member
  rw [idPicks offered member, (catalogCitations.2 s offered).2.2 named r member]
  exact Bool.false_ne_true

end RuleSource

def faithfulIds : List String := ["all", "wcag", "seo", "ux", "pwa"]

theorem sourceIdAsToken {s : RuleSource} (offered : s ∈ RuleSource.all) :
    (∀ rules, select (some s.id) rules = s.select rules ↔
      s.ruleIds = [] ∨
        ∀ r ∈ rules, picks s.id (Text.lowercase s.id) r = true ↔ r.id ∈ s.ruleIds) ∧
    (select (some s.id) catalog = s.select catalog ↔ s.id ∈ faithfulIds) ∧
    ∀ {auditor : Auditor} {given : Settings} {site : Option String} {clean : String} {page : Page}
      {w : World}, validateSite site = .ok clean → auditor.settings = .ok given →
      (fetch auditor.transport given clean w).1 = .ok page →
      ∃ a, (auditor.analyze site (some s.id) w).1 = .ok a ∧
        a = .ofJudged clean auditor.now (Analysis.judgedBy
          (verdictOn checks (page.subject clean)) (select (some s.id) catalog)) ∧
        (s.id ∈ faithfulIds →
          a = .ofJudged clean auditor.now (Analysis.judgedBy
            (verdictOn checks (page.subject clean)) (s.select catalog)) ∧
          (Service.sourceJson s).get? "ruleCount" = some (.int a.summary.total)) := by
  have onCatalog := RuleSource.idSelectsCatalog offered
  refine ⟨RuleSource.idSelects offered, onCatalog, ?_⟩
  intro auditor given site clean page w accepted read fetched
  refine ⟨auditor.judged clean (some s.id) page,
    Auditor.analyzeFetched accepted read fetched (some s.id), rfl, ?_⟩
  intro faithful
  rw [Auditor.judged, onCatalog.mpr faithful]
  refine ⟨rfl, ?_⟩
  have counted : (Analysis.ofJudged clean auditor.now (Analysis.judgedBy
      (verdictOn checks (page.subject clean)) (s.select catalog))).summary.total =
      (s.select catalog).length := by
    simp only [Analysis.ofJudged, Analysis.summaryOf, Analysis.judgedLength]
  rw [counted]
  rfl

theorem seoIdAsToken :
    ∃ s ∈ RuleSource.all, s.id = "seo" ∧ select (some s.id) catalog = s.select catalog ∧
    ∃ a, (Auditor.ofParagraph.analyze (some "https://a.b/") (some s.id) .start).1 = .ok a ∧
      a = .ofJudged "https://a.b/" "now" (Analysis.judgedBy
        (verdictOn checks (Page.paragraph.subject "https://a.b/")) (s.select catalog)) ∧
      (Service.sourceJson s).get? "ruleCount" = some (.int a.summary.total) := by
  have named : (RuleSource.all[3]).id ∈ faithfulIds := by decide +kernel
  obtain ⟨_, onCatalog, audited⟩ := sourceIdAsToken (List.getElem_mem (by decide : 3 < 16))
  obtain ⟨a, result, _, judged⟩ := audited Auditor.paragraphAccepted environmentUnset
    Auditor.paragraphFetched
  exact ⟨RuleSource.all[3], List.getElem_mem _, rfl, onCatalog.mpr named, a, result, judged named⟩

theorem coreWebVitalsUnselected :
    ∃ s ∈ RuleSource.all, s.id = "core-web-vitals" ∧ select (some s.id) catalog = [] ∧
      (s.select catalog).map Rule.id =
        ["cwv-001", "cwv-002", "cwv-003", "perf-001", "perf-002", "perf-003"] := by
  have offered : RuleSource.all[2] ∈ RuleSource.all := List.getElem_mem _
  exact ⟨_, offered, rfl, RuleSource.coreWebVitalsPicksNone offered rfl, by decide +kernel⟩

end PageAudit
