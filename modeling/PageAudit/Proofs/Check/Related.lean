import PageAudit.Check.Table
import PageAudit.Proofs.Pattern.Begun
/-!
Rules that are related. What one of two such rules looks for holds what the other one looks for, so
no page passes the narrower rule and fails the wider one.
-/
namespace PageAudit.Check

open Pattern

def Entails (first second : String) : Prop :=
  ∃ narrow wide, checks.find? first = some narrow ∧ checks.find? second = some wide ∧
    ∀ s, ∃ v w, narrow.run s = .ok v ∧ wide.run s = .ok w ∧ (v.passed = true → w.passed = true)

section
variable (s : Subject)

theorem scriptSteady : ∀ piece ∈ [letters "<script", someInTag,
    valued "type" "application/ld+json", inTag, verbatim ">"], Steady piece := by
  simp only [List.forall_mem_cons]
  exact ⟨lettersSteady _, oneOrMoreSteady _, valuedSteady _ _, zeroOrMoreSteady _, verbatimSteady _,
    nofun⟩

theorem blockBegins : Begins jsonLdScript jsonLdBlock := rowBegins scriptSteady _

theorem declaringSteady : ∀ piece ∈ [wordEdge, letters "var", someBlanks], Steady piece := by
  simp only [List.forall_mem_cons]
  exact ⟨wordEdgeSteady, lettersSteady _, oneOrMoreSteady _, nofun⟩

theorem assignmentBegins : Begins (declaring "var") varAssignment := rowBegins declaringSteady _

theorem typesLinked (passed : (schemaTypes s).passed = true) : (jsonLd s).passed = true := by
  obtain ⟨block, member, -⟩ := List.any_eq_true.mp passed
  refine begunOccurs blockBegins (occursCount.mpr ?_)
  rw [← findAllCount]
  exact Nat.ne_of_gt (List.length_pos_of_mem member)

theorem linkedStructured (passed : (jsonLd s).passed = true) : (structuredData s).passed = true :=
  Bool.or_eq_true_iff.mpr (.inl passed)

theorem workerOffline (passed : (serviceWorker s).passed = true) :
    (offlineFallback s).passed = true :=
  Bool.or_eq_true_iff.mpr
    (.inr (begunOccurs (lettersBegin "navigator.serviceWorker" ".register") passed))

theorem constGlobal (passed : (constLet s).passed = true) : (globalVariables s).passed = true := by
  have none : s.has (declaring "var") = false := by
    simpa using (Bool.and_eq_true_iff.mp passed).1
  have absent : s.has varAssignment = false :=
    Bool.eq_false_iff.mpr fun there =>
      Bool.eq_false_iff.mp none (begunOccurs assignmentBegins there)
  simp only [globalVariables, Verdict.located, absent, Bool.not_false]

theorem sizeAlike : (payloadSize s).passed = (mobilePayload s).passed := rfl

end

theorem relatedRulesAgree : Entails "schema-002" "schema-001" ∧ Entails "schema-001" "seo-004" ∧
    Entails "pwa-002" "pwa-004" ∧ Entails "airbnb-001" "googlejs-004" ∧
    Entails "lighthouse-003" "mobile-003" ∧ Entails "mobile-003" "lighthouse-003" := by
  refine ⟨⟨_, _, rfl, rfl, fun s => ⟨_, _, rfl, rfl, typesLinked s⟩⟩,
    ⟨_, _, rfl, rfl, fun s => ⟨_, _, rfl, rfl, linkedStructured s⟩⟩,
    ⟨_, _, rfl, rfl, fun s => ⟨_, _, rfl, rfl, workerOffline s⟩⟩,
    ⟨_, _, rfl, rfl, fun s => ⟨_, _, rfl, rfl, constGlobal s⟩⟩,
    ⟨_, _, rfl, rfl, fun s => ⟨_, _, rfl, rfl, (sizeAlike s ▸ ·)⟩⟩,
    ⟨_, _, rfl, rfl, fun s => ⟨_, _, rfl, rfl, (sizeAlike s ▸ ·)⟩⟩⟩

example :
    let page := ["<script type='application/ld+json'>", "Event</script>", "<script>const x = 1;",
      "navigator.serviceWorker", ".register('w')</script>"]
    let s : Subject := ⟨page.flatMap (·.toList), .empty, "https://a.b/"⟩
    (schemaTypes s).passed = true ∧ (serviceWorker s).passed = true ∧
      (constLet s).passed = true := by
  decide +kernel

end PageAudit.Check
