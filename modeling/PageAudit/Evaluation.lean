import PageAudit.Check.Table
import PageAudit.Number.Binary
import PageAudit.Rule.Basic
import PageAudit.Text.Case
/-!
Evaluation of rules on a page. A rule with a check is judged by it, one without by its category, and
any other is left to people. A check that gives up counts against its own rule only.
-/
namespace PageAudit

structure EvaluationFault where
  ruleId : String
  cause : Option Fault
  deriving DecidableEq, Repr

def EvaluationFault.message (e : EvaluationFault) : String :=
  let cause := match e.cause with
    | some fault => s!"{fault.kind}: {fault.text}"
    | none => "unknown error"
  s!"Check for rule {e.ruleId} failed: {cause}"

def Rule.adviceOr (r : Rule) (other : String) : String :=
  match r.example? with
  | some advice => if advice.isEmpty then other else advice
  | none => other

namespace Evaluation

open Verdict Number Pattern

inductive Theme where
  | scripts
  | speed
  | access
  deriving DecidableEq, Repr

def theme? (category : String) : Option Theme :=
  let category := Text.lowercase category
  if Text.mentions category "javascript" then some .scripts
  else if Text.mentions category "performance" then some .speed
  else if Text.mentions category "accessibility" then some .access
  else none

def byTheme (r : Rule) (s : Subject) : Theme → Verdict
  | .scripts =>
    let scripts := s.count (opens "script")
    plain (scripts < 20)
      (s!"JavaScript analysis: {scripts} script tags found. " ++
        s!"Manual review recommended for: {r.name}")
      (r.adviceOr s!"Follow {r.source} guidelines for best practices.")
  | .speed =>
    plain (s.markup.length < Check.maxMarkup)
      (s!"Page size: {kilo s.markup.length}KB. " ++
        s!"Manual performance testing recommended for: {r.name}")
      (r.adviceOr "Optimize page size, minimize resources, enable compression.")
  | .access =>
    let aria := s.has (word "aria-")
    let alt := s.has (word "alt=")
    plain (aria || alt)
      (s!"Accessibility features: ARIA({truth aria}), Alt text({truth alt}). " ++
        s!"Manual testing recommended for: {r.name}")
      (r.adviceOr "Follow WCAG 2.1 guidelines for accessibility.")

def manualReview (r : Rule) : Verdict :=
  plain false s!"This rule requires manual inspection or advanced tooling: {r.name}"
    (r.adviceOr s!"Follow {r.source} guidelines. Manual review needed.")

def withoutCheck (r : Rule) (s : Subject) : Verdict :=
  match theme? r.category with
  | some theme => byTheme r s theme
  | none => manualReview r

def afterFault (e : EvaluationFault) : Verdict := ⟨false, e.message, none, none⟩

end Evaluation

structure Outcome where
  verdict : Verdict
  fault : Option EvaluationFault
  deriving DecidableEq, Repr

def evaluateRule (table : CheckTable) (r : Rule) (s : Subject) : Outcome :=
  match table.find? r.id with
  | none => ⟨Evaluation.withoutCheck r s, none⟩
  | some check =>
    match check.run s with
    | .ok verdict => ⟨verdict, none⟩
    | .error cause =>
      let fault : EvaluationFault := ⟨r.id, some cause⟩
      ⟨Evaluation.afterFault fault, some fault⟩

def evaluate (table : CheckTable) (rules : List Rule) (s : Subject) : List Outcome :=
  rules.map fun r => evaluateRule table r s

def verdicts (table : CheckTable) (rules : List Rule) (s : Subject) : List Verdict :=
  (evaluate table rules s).map Outcome.verdict

end PageAudit
