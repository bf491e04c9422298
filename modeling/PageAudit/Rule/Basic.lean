/-!
Rules of good practice. Their data is fixed; what a page has to do to keep one is a check.
-/
namespace PageAudit

inductive Severity where
  | error
  | warning
  | info
  deriving DecidableEq, Repr

namespace Severity

def name : Severity → String
  | .error => "error"
  | .warning => "warning"
  | .info => "info"

def all : List Severity := [.error, .warning, .info]

def ofName? (name : String) : Option Severity := all.find? fun s => s.name == name

end Severity

structure Rule where
  id : String
  name : String
  category : String
  severity : Severity
  description : String
  rationale : String
  impact : String
  source : String
  sourceUrl : String
  goodExamples : List String
  badExamples : List String
  deriving DecidableEq, Repr

namespace Rule

def example? (r : Rule) : Option String := r.goodExamples.head?

def fallback (r : Rule) : String := r.example?.getD s!"Follow {r.source} guidelines."

end Rule

end PageAudit
