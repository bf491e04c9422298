import PageAudit.Proofs.Check.Growing
import PageAudit.Rule.Catalog
/-!
Outcomes that stay when markup follows. What a check has found is enough for good: where it looks
for something it goes on to pass, and where it minds something it goes on to fail.
-/
namespace PageAudit

def Lasting (outcome : Bool) (f : Subject → Bool) : Prop :=
  ∀ s more, f s = outcome → f (s.followed more) = outcome

section
variable {outcome : Bool} {f g : Subject → Bool} {n : Subject → Nat} {p : Pattern}

theorem lastingHas (grows : p.growing = true) : Lasting true (·.has p) :=
  fun _ more => hasFollowed grows more

theorem lastingNot (lasts : Lasting outcome f) : Lasting (!outcome) fun s => !f s := by
  intro s more ended
  rw [Bool.not_inj_iff] at ended ⊢
  exact lasts s more ended

theorem lastingAnd (first : Lasting outcome f) (second : Lasting outcome g) :
    Lasting outcome fun s => f s && g s := by
  intro s more ended
  cases outcome with
  | true =>
    obtain ⟨one, other⟩ := Bool.and_eq_true_iff.mp ended
    exact Bool.and_eq_true_iff.mpr ⟨first s more one, second s more other⟩
  | false =>
    exact Bool.and_eq_false_iff.mpr
      ((Bool.and_eq_false_iff.mp ended).imp (first s more) (second s more))

theorem lastingOr (first : Lasting outcome f) (second : Lasting outcome g) :
    Lasting outcome fun s => f s || g s := by
  intro s more ended
  cases outcome with
  | true =>
    exact Bool.or_eq_true_iff.mpr
      ((Bool.or_eq_true_iff.mp ended).imp (first s more) (second s more))
  | false =>
    obtain ⟨one, other⟩ := Bool.or_eq_false_iff.mp ended
    exact Bool.or_eq_false_iff.mpr ⟨first s more one, second s more other⟩

theorem lastingReached (bound : Nat) (grows : Growing n) :
    Lasting true fun s => decide (bound ≤ n s) := by
  intro s more reached
  exact decide_eq_true (Nat.le_trans (of_decide_eq_true reached) (grows s more))

theorem lastingBelow (bound : Nat) (grows : Growing n) :
    Lasting false fun s => decide (n s < bound) := by
  intro s more reached
  have above := of_decide_eq_false reached
  have grown := grows s more
  exact decide_eq_false (by omega)

theorem countSome (s : Subject) (p : Pattern) : decide (0 < s.count p) = s.has p := by
  rw [Bool.eq_iff_iff, decide_eq_true_iff, Subject.has, Pattern.occursCount, Nat.pos_iff_ne_zero]
  rfl

theorem countNone (s : Subject) (p : Pattern) : (s.count p == 0) = !s.has p := by
  rw [← countSome, Bool.eq_iff_iff]
  simp

theorem failingLasts {concern : String} {check : Subject → Except CheckError Verdict}
    (lasts : Lasting outcome fun s => passedBy (check s)) :
    Lasting outcome (NamedCheck.failing concern check).passes := by
  intro s more ended
  rw [failingPasses] at ended ⊢
  exact lasts s more ended

end

namespace Check

open Pattern

theorem namedGrow :
    ∀ p ∈ [viewportMeta, jsonLdScript, skipLinkPattern, tryCatch, errorHandler, focusWithoutOutline,
      genericLink, consoleCall], p.growing = true := by
  simp [of, growing, viewportMeta, jsonLdScript, skipLinkPattern, tryCatch, errorHandler,
    focusWithoutOutline, focusRule, genericLink, consoleCall]

theorem elevationLasts : Lasting true fun s => (elevation s).passed := by
  have shadows : Lasting true fun s => decide (0 < s.count (word "box-shadow:")) := by
    simp only [countSome]
    exact lastingHas (wordGrowing _)
  exact lastingOr shadows (lastingHas (wordsGrowing _))

theorem altTextLasts : Lasting false fun s => passedBy (altText s) := by
  intro s more ended
  have tags : s.findAll imgTag <+: (s.followed more).findAll imgTag :=
    findAllFollowed (growingFollowed (tagGrowing "img")) oneFilled
      (nearestQuiet (tagNearest (by decide))) s.markup more
  simp only [altTextPasses, List.isEmpty_eq_false_iff] at ended ⊢
  exact fun none => ended (List.prefix_nil.mp (none ▸ tags.filter _))

theorem touchTargetsLast : Lasting false fun s => passedBy (touchTargets s) := by
  intro s more ended
  simp only [touchTargetsPasses] at ended ⊢
  cases read : fontSizes (s.followed more) with
  | error e => rfl
  | ok sizes' =>
    rw [fontSizesRead] at read ended
    obtain ⟨sizes, before, start⟩ := mapMPrefix (fontSizesFollowed s more) read
    rw [before] at ended
    have tiny := start.countP_le (p := (· < 14))
    have many := of_decide_eq_false ended
    exact decide_eq_false (by omega)

theorem linkTextLasts : Lasting false fun s => (linkText s).passed := by
  have generic : Lasting false fun s => s.count genericLink == 0 := by
    simp only [countNone]
    exact lastingNot (lastingHas (namedGrow _ (by simp)))
  exact generic

end Check

def seeking : List String :=
  ["html-002", "html-003", "html-004", "css-003", "seo-004", "seo-005", "seo-006", "schema-001",
    "og-001", "og-003", "wcag-004", "wcag-006", "a11y-003", "pwa-001", "pwa-002", "pwa-004",
    "carbon-002", "ux-003", "content-002", "js-003", "material-001"]

def minding : List String :=
  ["wcag-001", "wcag-005", "a11y-001", "eslint-002", "eslint-003", "googlejs-004",
    "lighthouse-003", "mobile-001", "mobile-003", "httparch-002", "js-001", "cwv-003"]

open Pattern Check

theorem seekingLasts : ∀ id ∈ seeking,
    ∃ check, checks.find? id = some check ∧ Lasting true check.passes := by
  have named := namedGrow
  simp only [List.forall_mem_cons] at named
  obtain ⟨viewport, linked, skip, blocks, handlers, -⟩ := named
  simp only [seeking, List.forall_mem_cons]
  refine ⟨⟨_, rfl, lastingHas (tagHoldingGrowing ..)⟩,
    ⟨_, rfl, lastingAnd (lastingHas (tagHoldingGrowing ..)) (lastingHas viewport)⟩,
    ⟨_, rfl, lastingHas (by simp [of, growing])⟩,
    ⟨_, rfl, lastingAnd (lastingHas (wordGrowing _)) (lastingHas viewport)⟩,
    ⟨_, rfl, lastingOr (lastingHas linked) (lastingHas (wordsGrowing _))⟩,
    ⟨_, rfl, lastingHas (wordGrowing _)⟩,
    ⟨_, rfl, lastingHas (tagValuedGrowing ..)⟩,
    ⟨_, rfl, lastingHas linked⟩,
    ⟨_, rfl, lastingReached 3 (growingPresent fun _ _ => tagValuedGrowing ..)⟩,
    ⟨_, rfl, lastingAnd (lastingHas (tagValuedGrowing ..)) (lastingHas (tagValuedGrowing ..))⟩,
    ⟨_, rfl, lastingReached 2 (growingPresent fun _ _ => opensGrowing _)⟩,
    ⟨_, rfl, lastingOr (lastingOr (lastingHas (wordGrowing _)) (lastingHas (wordGrowing _)))
      (lastingHas (wordGrowing _))⟩,
    ⟨_, rfl, lastingHas skip⟩,
    ⟨_, rfl, lastingHas (tagValuedGrowing ..)⟩,
    ⟨_, rfl, lastingHas (wordGrowing _)⟩,
    ⟨_, rfl, lastingOr (lastingHas (wordsGrowing _)) (lastingHas (wordGrowing _))⟩,
    ⟨_, rfl, lastingHas (wordsGrowing _)⟩,
    ⟨_, rfl, lastingHas (wordsGrowing _)⟩,
    ⟨_, rfl, lastingAnd (lastingOr (lastingHas (wordsGrowing _)) (lastingHas (wordsGrowing _)))
      (lastingHas (wordsGrowing _))⟩,
    ⟨_, rfl, lastingOr (lastingHas blocks) (lastingHas handlers)⟩,
    ⟨_, rfl, elevationLasts⟩, nofun⟩

theorem mindingLasts : ∀ id ∈ minding,
    ∃ check, checks.find? id = some check ∧ Lasting false check.passes := by
  have named := namedGrow
  simp only [List.forall_mem_cons] at named
  obtain ⟨-, -, -, -, -, outline, -, console, -⟩ := named
  have scripts : Lasting false fun s => (scriptExecution s).passed :=
    lastingAnd (lastingBelow 15 scriptTagGrows) (lastingBelow 5 inlineScriptGrows)
  simp only [minding, List.forall_mem_cons]
  refine ⟨⟨_, rfl, failingLasts altTextLasts⟩,
    ⟨_, rfl, lastingNot (lastingHas outline)⟩,
    ⟨_, rfl, linkTextLasts⟩,
    ⟨_, rfl, lastingNot (lastingHas console)⟩,
    ⟨_, rfl, lastingNot (lastingHas (by decide))⟩,
    ⟨_, rfl, lastingNot (lastingHas (by decide))⟩,
    ⟨_, rfl, lastingBelow maxMarkup growingMarkup⟩,
    ⟨_, rfl, failingLasts touchTargetsLast⟩,
    ⟨_, rfl, lastingBelow maxMarkup growingMarkup⟩,
    ⟨_, rfl, lastingBelow 50 (growingAdd (growingAdd (growingAdd imgTagGrows sourcedScriptGrows)
      stylesheetLinkGrows) preloadedFontGrows)⟩,
    ⟨_, rfl, scripts⟩, ⟨_, rfl, scripts⟩, nofun⟩

theorem settledOutcomesLast (r : Rule) (s : Subject) (more : List Char) :
    (r.id ∈ seeking → (evaluateRule checks r s).verdict.passed = true →
      (evaluateRule checks r (s.followed more)).verdict.passed = true) ∧
    (r.id ∈ minding → (evaluateRule checks r s).verdict.passed = false →
      (evaluateRule checks r (s.followed more)).verdict.passed = false) := by
  simp only [evaluatePassed]
  constructor
  · intro sought passes
    obtain ⟨check, found, lasts⟩ := seekingLasts r.id sought
    rw [found] at passes ⊢
    exact lasts s more passes
  · intro minded fails
    obtain ⟨check, found, lasts⟩ := mindingLasts r.id minded
    rw [found] at fails ⊢
    exact lasts s more fails

theorem langAndDebuggerLast :
    let s : Subject := ⟨"<html lang=en>debugger;".toList, .empty, "https://a.b/"⟩
    let more : List Char := "</html>".toList
    ∃ seeker ∈ catalog, ∃ minder ∈ catalog, seeker.id ∈ seeking ∧ minder.id ∈ minding ∧
      (evaluateRule checks seeker s).verdict.passed = true ∧
      (evaluateRule checks seeker (s.followed more)).verdict.passed = true ∧
      (evaluateRule checks minder s).verdict.passed = false ∧
      (evaluateRule checks minder (s.followed more)).verdict.passed = false := by
  intro s more
  have named : ∀ {id r}, rule? id = some r → r.id = id := fun found => by
    simpa using List.find?_some found
  obtain ⟨seeker, seeks⟩ : ∃ r, rule? "html-002" = some r :=
    Option.isSome_iff_exists.mp (by decide)
  obtain ⟨minder, minds⟩ : ∃ r, rule? "eslint-003" = some r :=
    Option.isSome_iff_exists.mp (by decide)
  have sought : seeker.id ∈ seeking := by
    rw [named seeks]
    decide
  have minded : minder.id ∈ minding := by
    rw [named minds]
    decide
  have passes : (evaluateRule checks seeker s).verdict.passed = true := by
    have there : (language s).passed = true := by decide
    rw [evaluatePassed, named seeks]
    exact there
  have fails : (evaluateRule checks minder s).verdict.passed = false := by
    have there : (debuggerStatements s).passed = false := by decide
    rw [evaluatePassed, named minds]
    exact there
  exact ⟨seeker, List.mem_of_find?_eq_some seeks, minder, List.mem_of_find?_eq_some minds, sought,
    minded, passes,
    (settledOutcomesLast seeker s more).1 sought passes, fails,
    (settledOutcomesLast minder s more).2 minded fails⟩

end PageAudit
