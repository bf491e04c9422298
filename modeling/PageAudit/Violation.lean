import PageAudit.Json.Printer
import PageAudit.Rule.Basic
import PageAudit.Check.Basic
/-!
Violations: a broken rule together with the verdict on it.
-/
namespace PageAudit

structure Background where
  rationale : String
  impact : String
  source : String
  sourceUrl : String
  deriving DecidableEq, Repr

structure Violation where
  id : String
  ruleName : String
  category : String
  severity : Severity
  description : String
  details : String
  recommendation : String
  page : String
  background : Option Background
  examples : List String
  evidence : Option Evidence
  deriving DecidableEq, Repr

namespace Violation

def ofVerdict (page : String) (r : Rule) (v : Verdict) : Violation where
  id := r.id
  ruleName := r.name
  category := r.category
  severity := r.severity
  description := r.description
  details := v.details
  recommendation := (v.recommendation.filter (!·.isEmpty)).getD r.fallback
  page := page
  background := some ⟨r.rationale, r.impact, r.source, r.sourceUrl⟩
  examples := r.goodExamples
  evidence := v.evidence

def unreachable (page message : String) : Violation where
  id := "connection-error"
  ruleName := "Website Accessibility Check"
  category := "Connectivity"
  severity := .error
  description := "Unable to access the website for analysis."
  details := message
  recommendation :=
    "Ensure the website is publicly accessible and not behind authentication. " ++
      "Check CORS and firewall settings."
  page := page
  background := none
  examples := []
  evidence := none

def source? (v : Violation) : Option String := v.background.map Background.source

def toJson (v : Violation) : Json :=
  .object [
    ("id", .string v.id),
    ("ruleName", .string v.ruleName),
    ("category", .string v.category),
    ("severity", .string v.severity.name),
    ("description", .string v.description),
    ("details", .string v.details),
    ("rationale", .string? (v.background.map Background.rationale)),
    ("impact", .string? (v.background.map Background.impact)),
    ("source", .string? v.source?),
    ("sourceUrl", .string? (v.background.map Background.sourceUrl)),
    ("recommendation", .string v.recommendation),
    ("examples", .strings v.examples),
    ("page", .string v.page),
    ("codeSnippet", .string? (v.evidence.map Evidence.snippet)),
    ("lineNumber", .nat? (v.evidence.map Evidence.line))]

end Violation

end PageAudit
