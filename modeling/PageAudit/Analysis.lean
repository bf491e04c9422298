import PageAudit.Number.Binary
import PageAudit.Text.Case
import PageAudit.Url
import PageAudit.Violation
/-!
The result of an analysis: violations in the order of the rules, counts, a score, and advice by
category.
-/
namespace PageAudit

structure Summary where
  total : Int
  passed : Nat
  failed : Nat
  warnings : Nat
  info : Nat
  deriving DecidableEq, Repr

structure Analysis where
  siteName : String
  siteUrl : String
  analyzedAt : String
  score : Int
  violations : List Violation
  recommendations : List String
  summary : Summary
  deriving DecidableEq, Repr

structure VerdictMismatch where
  verdicts : Nat
  rules : Nat
  deriving DecidableEq, Repr

def VerdictMismatch.message (e : VerdictMismatch) : String :=
  s!"Got {e.verdicts} verdicts for {e.rules} rules"

def siteName (url : String) : String :=
  let host? := match Url.parts url with
    | .ok parts => parts.host?
    | .error _ => none
  match host? with
  | none => "Unknown Site"
  | some host => if Text.startsWith host "www." then String.ofList (host.toList.drop 4) else host

namespace Analysis

def maxRecommendations : Nat := 5

def tally : List (String × Nat) → String → List (String × Nat)
  | [], key => [(key, 1)]
  | (k, n) :: rest, key => if k == key then (k, n + 1) :: rest else (k, n) :: tally rest key

def categoryCounts (violations : List Violation) : List (String × Nat) :=
  (violations.map Violation.category).foldl tally []

def categoryRecommendations (violations : List Violation) : List String :=
  ((categoryCounts violations).map fun (category, n) => s!"Fix {n} {category} issue(s)").take
    maxRecommendations

abbrev Judged := List (Rule × Verdict)

def violationsOf (site : String) (judged : Judged) : List Violation :=
  (judged.filter fun (_, v) => !v.passed).map fun (r, v) => .ofVerdict site r v

def countOf (severity : Severity) (violations : List Violation) : Nat :=
  violations.countP fun v => v.severity == severity

def summaryOf (judged : Judged) (violations : List Violation) : Summary where
  total := judged.length
  passed := judged.countP fun (_, v) => v.passed
  failed := countOf .error violations
  warnings := countOf .warning violations
  info := countOf .info violations

def ofJudged (site analyzedAt : String) (judged : Judged) : Analysis :=
  let violations := violationsOf site judged
  let summary := summaryOf judged violations
  { siteName := PageAudit.siteName site
    siteUrl := site
    analyzedAt := analyzedAt
    score := Number.score summary.passed summary.total
    violations := violations
    recommendations := categoryRecommendations violations
    summary := summary }

def ofVerdicts (site analyzedAt : String) (rules : List Rule) (verdicts : List Verdict) :
    Except VerdictMismatch Analysis :=
  if rules.length = verdicts.length then .ok (ofJudged site analyzedAt (rules.zip verdicts))
  else .error ⟨verdicts.length, rules.length⟩

def connectionRecommendations : List String := [
  "Ensure website is publicly accessible",
  "Check CORS settings",
  "Verify SSL certificate"]

/-- The result for a page that could not be reached. The counts do not add up: all selected rules
are there, and one failure. -/
def unreachable (site analyzedAt : String) (total : Int) (message : String) : Analysis where
  siteName := PageAudit.siteName site
  siteUrl := site
  analyzedAt := analyzedAt
  score := 0
  violations := [.unreachable site message]
  recommendations := connectionRecommendations
  summary := ⟨total, 0, 1, 0, 0⟩

end Analysis

def Summary.toJson (s : Summary) : Json :=
  .object [
    ("totalRules", .int s.total),
    ("passedRules", .nat s.passed),
    ("failedRules", .nat s.failed),
    ("warningRules", .nat s.warnings),
    ("infoRules", .nat s.info)]

def Analysis.toJson (a : Analysis) : Json :=
  .object [
    ("siteName", .string a.siteName),
    ("siteUrl", .string a.siteUrl),
    ("analyzedAt", .string a.analyzedAt),
    ("overallScore", .int a.score),
    ("violations", .list (a.violations.map Violation.toJson)),
    ("recommendations", .strings a.recommendations),
    ("summary", a.summary.toJson)]

end PageAudit
