import PageAudit.Evaluation
import PageAudit.Proofs.Analysis
/-!
Evaluation goes rule by rule. What becomes of one rule is decided by that rule, the page and the
check of its id, and a check that gives up is told of in the verdict on its own rule only.
-/
namespace PageAudit

def faultOf? (table : CheckTable) (s : Subject) (r : Rule) : Option Fault :=
  match table.find? r.id with
  | none => none
  | some check =>
    match check.run s with
    | .ok _ => none
    | .error cause => some cause

def faultText (r : Rule) (cause : Fault) : String :=
  s!"Check for rule {r.id} failed: {cause.kind}: {cause.text}"

def verdictOn (table : CheckTable) (s : Subject) (r : Rule) : Verdict :=
  (evaluateRule table r s).verdict

section
variable {table : CheckTable} {s : Subject} {r : Rule} {cause : Fault}

theorem faultMessage (r : Rule) (cause : Fault) :
    EvaluationFault.message ⟨r.id, some cause⟩ = faultText r cause := by
  unfold EvaluationFault.message faultText
  simp only [String.append_assoc]
  rfl

theorem verdictFaulted (gaveUp : faultOf? table s r = some cause) :
    verdictOn table s r = ⟨false, faultText r cause, none, none⟩ := by
  unfold faultOf? at gaveUp
  unfold verdictOn evaluateRule
  cases found : table.find? r.id with
  | none => simp [found] at gaveUp
  | some check =>
    cases ended : check.run s with
    | ok verdict => simp [found, ended] at gaveUp
    | error given =>
      have same : given = cause := by simpa [found, ended] using gaveUp
      subst same
      simp only [ended, Evaluation.afterFault, faultMessage]

theorem outcomeFault (table : CheckTable) (s : Subject) (r : Rule) :
    (evaluateRule table r s).fault = (faultOf? table s r).map fun cause => ⟨r.id, some cause⟩ := by
  unfold evaluateRule faultOf?
  cases table.find? r.id with
  | none => rfl
  | some check =>
    simp only
    cases check.run s <;> rfl

end

theorem verdictsMap (table : CheckTable) (rules : List Rule) (s : Subject) :
    verdicts table rules s = rules.map (verdictOn table s) := by
  simp [verdicts, evaluate, verdictOn, Function.comp_def]

theorem verdictsLength (table : CheckTable) (rules : List Rule) (s : Subject) :
    (verdicts table rules s).length = rules.length := by
  rw [verdictsMap, List.length_map]

theorem verdictsAt {table : CheckTable} {rules : List Rule} {s : Subject} {i : Nat} {r : Rule}
    (position : rules[i]? = some r) : (verdicts table rules s)[i]? = some (verdictOn table s r) := by
  rw [verdictsMap, List.getElem?_map, position]
  rfl

theorem zipVerdicts (table : CheckTable) (rules : List Rule) (s : Subject) :
    rules.zip (verdicts table rules s) = Analysis.judgedBy (verdictOn table s) rules := by
  rw [verdictsMap, Analysis.judgedBy]
  induction rules with
  | nil => rfl
  | cons r rest ih => simp [ih]

end PageAudit
