import Mathlib.Data.List.Nodup
import PageAudit.Analysis
import PageAudit.Proofs.Number.Rounding
/-!
What a result says about the rules that were judged. The counters and the violations come from one
list of rules with their verdicts, so they have to agree with each other and with that list.
-/
namespace PageAudit

namespace Violation

theorem ofVerdictAdvice {page : String} {r : Rule} {v : Verdict} (filled : r.fallback ≠ "") :
    (ofVerdict page r v).recommendation ≠ "" := by
  unfold ofVerdict
  cases kept : v.recommendation.filter (!·.isEmpty) with
  | none => exact filled
  | some advice =>
    have notEmpty := (Option.filter_eq_some_iff.mp kept).2
    simpa using notEmpty

theorem ofVerdictSilent {page : String} {r : Rule} {v : Verdict} (silent : v.recommendation = none) :
    (ofVerdict page r v).recommendation = r.fallback := by
  simp [ofVerdict, silent]

theorem snippetField (v : Violation) :
    v.toJson.get? "codeSnippet" = some (.string? (v.evidence.map Evidence.snippet)) := rfl

theorem lineField (v : Violation) :
    v.toJson.get? "lineNumber" = some (.nat? (v.evidence.map Evidence.line)) := rfl

theorem placeFieldsTogether (v : Violation) :
    v.toJson.get? "codeSnippet" = some .null ↔ v.toJson.get? "lineNumber" = some .null := by
  rw [snippetField, lineField]
  cases v.evidence with
  | none => simp [Json.string?, Json.nat?]
  | some e => simp [Json.string?, Json.nat?, Json.nat, Json.int]

end Violation

namespace Analysis

def judgedBy (judge : Rule → Verdict) (rules : List Rule) : Judged := rules.map fun r => (r, judge r)

def broken (judge : Rule → Verdict) (rules : List Rule) : List Rule :=
  rules.filter fun r => !(judge r).passed

theorem violationsOfJudged (site : String) (judge : Rule → Verdict) (rules : List Rule) :
    violationsOf site (judgedBy judge rules) =
      (broken judge rules).map fun r => .ofVerdict site r (judge r) := by
  simp [violationsOf, judgedBy, broken, List.filter_map, Function.comp_def]

theorem severitiesPartition (violations : List Violation) :
    countOf .error violations + countOf .warning violations + countOf .info violations =
      violations.length := by
  induction violations with
  | nil => rfl
  | cons v rest ih =>
    simp only [countOf, List.countP_cons, List.length_cons] at ih ⊢
    cases severity : v.severity <;> simp <;> omega

theorem judgedLength (judge : Rule → Verdict) (rules : List Rule) :
    (judgedBy judge rules).length = rules.length := List.length_map _

theorem passedOrBroken (judge : Rule → Verdict) (rules : List Rule) :
    ((judgedBy judge rules).countP fun j => j.2.passed) + (broken judge rules).length =
      rules.length := by
  induction rules with
  | nil => rfl
  | cons r rest ih =>
    simp only [judgedBy, List.countP_map, Function.comp_def, broken] at ih
    simp only [judgedBy, broken, List.countP_map, Function.comp_def, List.countP_cons,
      List.filter_cons, List.length_cons]
    cases (judge r).passed <;> simp <;> omega

theorem judgedWithin (site analyzedAt : String) (judged : Judged) :
    0 ≤ (ofJudged site analyzedAt judged).score ∧ (ofJudged site analyzedAt judged).score ≤ 100 := by
  refine Number.scoreWithin (Int.natCast_nonneg _) ?_
  have few : (judged.countP fun j => j.2.passed) ≤ judged.length := List.countP_le_length
  exact Int.ofNat_le.mpr few

/-- A result accounts for all rules of a list that a judge decided on: each broken rule has one
violation, in the order of the list, and the counters are those of rules and violations. -/
structure Reconciles (judge : Rule → Verdict) (rules : List Rule) (site : String) (a : Analysis) :
    Prop where
  total : a.summary.total = rules.length
  balanced :
    (a.summary.passed + a.summary.failed + a.summary.warnings + a.summary.info : Int) =
      a.summary.total
  ids : a.violations.map Violation.id = (broken judge rules).map Rule.id
  severities : a.violations.map Violation.severity = (broken judge rules).map Rule.severity
  once : (a.violations.map Violation.id).Nodup
  failed : a.summary.failed = (a.violations.filter fun v => v.severity = .error).length
  warnings : a.summary.warnings = (a.violations.filter fun v => v.severity = .warning).length
  info : a.summary.info = (a.violations.filter fun v => v.severity = .info).length
  page : ∀ v ∈ a.violations, v.page = site
  advised : ∀ v ∈ a.violations, v.recommendation ≠ ""
  placed : ∀ v ∈ a.violations,
    v.toJson.get? "codeSnippet" = some .null ↔ v.toJson.get? "lineNumber" = some .null
  score : 0 ≤ a.score ∧ a.score ≤ 100
  nothing : rules = [] → a.score = 0

theorem Reconciles.told {judge : Rule → Verdict} {rules : List Rule} {site : String} {a : Analysis}
    (reconciles : Reconciles judge rules site a) (distinct : (rules.map Rule.id).Nodup) {r : Rule}
    (selected : r ∈ rules) :
    (∃ v ∈ a.violations, v.id = r.id) ↔ (judge r).passed = false := by
  rw [← List.mem_map, reconciles.ids, List.mem_map]
  constructor
  · rintro ⟨other, isBroken, same⟩
    obtain ⟨inside, failed⟩ := List.mem_filter.mp isBroken
    rw [List.inj_on_of_nodup_map distinct inside selected same] at failed
    simpa using failed
  · intro failed
    exact ⟨r, List.mem_filter.mpr ⟨selected, by simpa using failed⟩, rfl⟩

theorem countOfFilter (severity : Severity) (violations : List Violation) :
    countOf severity violations = (violations.filter fun v => v.severity = severity).length := by
  simp [countOf, List.countP_eq_length_filter, beq_eq_decide]

theorem ofJudgedReconciles {rules : List Rule} (distinct : (rules.map Rule.id).Nodup)
    (filled : ∀ r ∈ rules, r.fallback ≠ "") (judge : Rule → Verdict) (site analyzedAt : String) :
    Reconciles judge rules site (ofJudged site analyzedAt (judgedBy judge rules)) := by
  have violations : (ofJudged site analyzedAt (judgedBy judge rules)).violations =
      (broken judge rules).map fun r => .ofVerdict site r (judge r) :=
    violationsOfJudged site judge rules
  have ids : (ofJudged site analyzedAt (judgedBy judge rules)).violations.map Violation.id =
      (broken judge rules).map Rule.id := by
    rw [violations, List.map_map]
    rfl
  have each : ∀ v ∈ (ofJudged site analyzedAt (judgedBy judge rules)).violations,
      ∃ r ∈ rules, v = .ofVerdict site r (judge r) := by
    intro v member
    rw [violations] at member
    obtain ⟨r, isBroken, same⟩ := List.mem_map.mp member
    exact ⟨r, List.mem_of_mem_filter isBroken, same.symm⟩
  constructor
  case total => simp [ofJudged, summaryOf, judgedLength]
  case balanced =>
    -- Every rule passes or is told of, and what is told of has one of the three severities.
    have parts := passedOrBroken judge rules
    have kinds := severitiesPartition (violationsOf site (judgedBy judge rules))
    have one : (violationsOf site (judgedBy judge rules)).length = (broken judge rules).length := by
      rw [violationsOfJudged, List.length_map]
    simp only [ofJudged, summaryOf, judgedLength]
    omega
  case ids => exact ids
  case severities =>
    rw [violations, List.map_map]
    rfl
  case once =>
    rw [ids]
    exact distinct.sublist (List.filter_sublist.map Rule.id)
  case failed => exact countOfFilter ..
  case warnings => exact countOfFilter ..
  case info => exact countOfFilter ..
  case page =>
    intro v member
    obtain ⟨r, _, rfl⟩ := each v member
    rfl
  case advised =>
    intro v member
    obtain ⟨r, inside, rfl⟩ := each v member
    exact Violation.ofVerdictAdvice (filled r inside)
  case placed => exact fun v _ => v.placeFieldsTogether
  case score => exact judgedWithin site analyzedAt _
  case nothing =>
    rintro rfl
    rfl

end Analysis

end PageAudit
