import PageAudit.Proofs.Check.Passing
import PageAudit.Proofs.Pattern.Caseless
import PageAudit.Rule.Catalog
/-!
Checks on lowered markup. All but three of the checks count, find and compare without regard to
letter case, so they pass there exactly where they pass on the markup as it was written.
-/
namespace PageAudit

namespace Text

variable (text : List Char)

@[simp] theorem lengthLowered : (lowered text).length = text.length := List.length_map ..

@[simp] theorem loweredEmpty : (lowered text).isEmpty = text.isEmpty := List.isEmpty_map

@[simp] theorem takeLowered (n : Nat) : (lowered text).take n = lowered (text.take n) :=
  (List.map_take ..).symm

theorem dropBlanksLowered :
    (lowered text).dropWhile isBlank = lowered (text.dropWhile isBlank) := by
  induction text with
  | nil => rfl
  | cons c rest ih =>
    rw [Pattern.loweredCons, List.dropWhile_cons, List.dropWhile_cons, blankLowered, ih]
    split
    · rfl
    · rfl

@[simp] theorem trimLowered : trim (lowered text) = lowered (trim text) := by
  have reversed : ∀ chars : List Char, (lowered chars).reverse = lowered chars.reverse :=
    fun chars => (List.map_reverse ..).symm
  simp only [trim, trimEnd, dropBlanksLowered, reversed]

theorem numeralLowered : numeral (lowered text) = numeral text := by
  simp only [numeral, lowered, List.foldl_map, digitLowered]

theorem containsLowered {c : Char} (plain : c.isAlpha = false) :
    (lowered text).contains c = text.contains c := by
  have same : ∀ d : Char, (c == d.toLower) = (c == d) := fun d => by
    rw [Bool.beq_comm, uncasedSame (Pattern.plainUncased plain) d, Bool.beq_comm]
  induction text with
  | nil => rfl
  | cons d rest ih => rw [Pattern.loweredCons, List.contains_cons, List.contains_cons, ih, same]

end Text

def Subject.lowered (s : Subject) : Subject := { s with markup := Text.lowered s.markup }

@[simp] theorem markupLowered (s : Subject) : s.lowered.markup = Text.lowered s.markup := rfl

section
variable {p : Pattern} (same : p.caseless = true) (s : Subject)
include same

@[simp] theorem hasLowered : s.lowered.has p = s.has p := Pattern.occursLowered same s.markup

@[simp] theorem countedLowered : s.lowered.count p = s.count p := Pattern.countLowered same s.markup

@[simp] theorem listedLowered : s.lowered.findAll p = (s.findAll p).map Text.lowered :=
  Pattern.findAllLowered same s.markup

@[simp] theorem firstLowered : s.lowered.find? p = (s.find? p).map Pattern.Match.lowered :=
  Pattern.findLowered same s.markup

end

theorem readNumberLowered (digits : List Char) :
    readNumber (Text.lowered digits) = readNumber digits := by
  simp only [readNumber, Text.lengthLowered, Text.numeralLowered]

def NamedCheck.CaseBlind (check : NamedCheck) : Prop :=
  ∀ s, check.passes s.lowered = check.passes s

theorem sureBlind {concern : String} {f : Subject → Verdict} :
    (NamedCheck.sure concern f).CaseBlind ↔ ∀ s, (f s.lowered).passed = (f s).passed := Iff.rfl

theorem failingBlind {concern : String} {f : Subject → Except CheckError Verdict} :
    (NamedCheck.failing concern f).CaseBlind ↔ ∀ s, passedBy (f s.lowered) = passedBy (f s) := by
  simp only [NamedCheck.CaseBlind, failingPasses]

namespace Check

open Pattern Verdict

theorem lightColorCaseless (next : Pattern) : (lightColor next).caseless = next.caseless := by
  have hex : Text.uncased isHexDigit = true := by decide
  have five : Text.uncased isZeroToFive = true := by decide
  simp [lightColor, lightChannel, hex, five]

theorem accessCaseless :
    ∀ p ∈ [lightBackground, lightText, interactiveTag, negativeTabindex, focusWithoutOutline,
      genericLink, forLabel, skipLinkPattern, anchorTag, divHandler, imgTag, imgWithAlt],
      p.caseless = true := by
  simp [of, lightBackground, lightText, lightColorCaseless, interactiveTag, negativeTabindex,
    focusWithoutOutline, focusRule, genericLink, forLabel, skipLinkPattern, anchorTag, divHandler,
    imgTag, imgWithAlt]

theorem altTextBlind (s : Subject) : passedBy (altText s.lowered) = passedBy (altText s) := by
  simp [altTextPasses, accessCaseless, occursLowered, List.filter_map, Function.comp_def]

theorem accessBlind : ∀ row ∈ accessTable, row.2.CaseBlind := by
  simp only [accessTable, List.forall_mem_cons, sureBlind, failingBlind, colorContrast,
    keyboardAccess, semanticHtml, focusIndicators, ariaLabels, linkText, formLabels, skipLink,
    mediaTranscripts, linkSpacing, divButtons, located, plain]
  simp [altTextBlind, accessCaseless]

theorem loadingCaseless :
    ∀ p ∈ [sizedImg, blockingScript, blockingStylesheet, lazyField, passiveOption, inlineScript,
      stylesheetLink, sourcedScript, preloadedFont, fontSize, scriptSource], p.caseless = true := by
  have digits : Text.uncased Char.isDigit = true := by decide
  simp [of, sizedImg, sizeField, blockingScript, blockingStylesheet, lazyField, passiveOption,
    inlineScript, scriptEnd, stylesheetLink, sourcedScript, preloadedFont, fontSize, scriptSource,
    digits]

theorem listenerCaseless (event : String) : (listenerFor event).caseless = true := by
  simp [listenerFor, of]

theorem lazyLoadingBlind (s : Subject) : lazyLoading s.lowered = lazyLoading s := by
  unfold lazyLoading
  rw [countedLowered (by simp [imgTag]), countedLowered (by simp [of]),
    countedLowered (by simp [of]), countedLowered (by simp [of])]

theorem layoutShiftBlind (s : Subject) :
    passedBy (layoutShift s.lowered) = passedBy (layoutShift s) := by
  have same := layoutShiftPasses s.lowered
  simp only [countedLowered, accessCaseless, loadingCaseless, List.mem_cons, true_or,
    or_true] at same
  rw [layoutShiftPasses] at same
  exact (Except.ok.inj same).symm

theorem renderBlockingBlind (s : Subject) :
    passedBy (renderBlocking s.lowered) = passedBy (renderBlocking s) := by
  simp [renderBlockingPasses, loadingCaseless]

theorem touchTargetsBlind (s : Subject) :
    passedBy (touchTargets s.lowered) = passedBy (touchTargets s) := by
  have sizes : fontSizes s.lowered = fontSizes s := by
    have lowered := matchesLowered (loadingCaseless fontSize (by simp)) s.markup
    simp only [fontSizes, Subject.lowered, lowered, List.mapM_map]
    simp [Match.lowered, readNumberLowered, Function.comp_def]
  rw [touchTargetsPasses, touchTargetsPasses, sizes]

theorem loadingBlind : ∀ row ∈ loadingTable, row.2.CaseBlind ∨ row.1 = "httparch-001" := by
  simp only [loadingTable, List.forall_mem_cons, sureBlind, failingBlind, scriptExecution,
    imageOptimization, payloadSize, passiveListeners, requestCount, interstitials, mobilePayload,
    located, plain]
  simp [lazyLoadingBlind, layoutShiftBlind, renderBlockingBlind, touchTargetsBlind, accessCaseless,
    loadingCaseless, listenerCaseless, of, occursLowered, Function.comp_def]

theorem siteBlind (s : Subject) :
    https s.lowered = https s ∧ urlStructure s.lowered = urlStructure s :=
  ⟨rfl, rfl⟩

theorem headersBlind (s : Subject) :
    contentSecurityPolicy s.lowered = contentSecurityPolicy s ∧
    securityHeaders s.lowered = securityHeaders s ∧
    baselineSecurityHeaders s.lowered = baselineSecurityHeaders s :=
  ⟨rfl, rfl, rfl⟩

theorem discoveryCaseless :
    ∀ p ∈ [titleElement, descriptionElement, descriptionMeta, jsonLdScript, graphImage,
      graphImageSize], p.caseless = true := by
  simp [of, titleElement, descriptionElement, descriptionMeta, jsonLdScript, graphImage,
    graphImageSize, contentField]

theorem groupTextLowered (m : Option Match) :
    groupText (m.map Match.lowered) = Text.lowered (groupText m) := by
  cases m with
  | none => rfl
  | some m => exact Text.trimLowered m.group

theorem discoveryBlind : ∀ row ∈ discoveryTable, row.2.CaseBlind ∨ row.1 = "schema-002" := by
  simp only [discoveryTable, List.forall_mem_cons, sureBlind, failingBlind, title, metaDescription,
    headingHierarchy, structuredData, sitemap, canonical, openGraph, ogImageDimensions, twitterCard,
    jsonLd, located, plain]
  simp [discoveryCaseless, groupTextLowered, siteBlind]

theorem safetyBlind : ∀ row ∈ safetyTable, row.2.CaseBlind := by
  simp only [safetyTable, List.forall_mem_cons, sureBlind, failingBlind, inputValidation, plain]
  simp [siteBlind, headersBlind]

theorem documentCaseless :
    ∀ p ∈ [unclosedTag, obsoleteTag, viewportMeta, styleField, stylesheetLink, preloadedStyle],
      p.caseless = true := by
  simp [of, unclosedTag, obsoleteTag, viewportMeta, styleField, stylesheetLink, preloadedStyle]

theorem documentBlind : ∀ row ∈ documentTable, row.2.CaseBlind := by
  simp only [documentTable, List.forall_mem_cons, sureBlind, validHtml, language, doctype, metaTags,
    externalCss, cssDelivery, responsiveDesign, located, plain]
  simp [documentCaseless, occursLowered, of]

theorem scriptCaseless :
    ∀ p ∈ [inlineScript, tryCatch, errorHandler, declaration, scriptBlock, consoleCall,
      debuggerCall, arrow, unnamedFunction, concatenation, destructuringPattern, repeatedAccess,
      defaultParameter, wholeScript, sourceField, docComment, anyFunction, looseComparison,
      varAssignment], p.caseless = true := by
  simp [of, inlineScript, scriptEnd, tryCatch, errorHandler, declaration, scriptBlock, consoleCall,
    debuggerCall, arrow, unnamedFunction, concatenation, quotedText, destructuringPattern,
    repeatedAccess, defaultParameter, wholeScript, sourceField, docComment, namedFunction,
    anyFunction, looseComparison, varAssignment]

theorem templateCaseless : template.caseless = true := by
  have backtick : Text.uncased isBacktick = true := by decide
  have others : Text.uncased (!isBacktick ·) = true := by decide
  simp [of, template, backtick, others]

theorem declaringCaseless (keyword : String) : (declaring keyword).caseless = true := by
  simp [declaring, of]

theorem unusedVariablesBlind (s : Subject) :
    (unusedVariables s.lowered).passed = (unusedVariables s).passed := by
  simp only [unusedVariables, plain]
  simp [scriptCaseless, List.foldl_map]

theorem semicolonsBlind (s : Subject) :
    (semicolons s.lowered).passed = (semicolons s).passed := by
  have source : ∀ block, sourceField.occursIn (Text.lowered block) = sourceField.occursIn block :=
    occursLowered (scriptCaseless sourceField (by simp))
  have separated : ∀ block : List Char, (Text.lowered block).contains ';' = block.contains ';' :=
    fun block => Text.containsLowered block (by decide)
  have blocks : s.lowered.findAll wholeScript = (s.findAll wholeScript).map Text.lowered :=
    listedLowered (scriptCaseless wholeScript (by simp)) s
  simp only [semicolons, plain, blocks, List.filter_map, Function.comp_def, source,
    List.isEmpty_map, List.any_map, separated]

theorem scriptBlind : ∀ row ∈ scriptTable, row.2.CaseBlind ∨ row.1 = "eslint-004" := by
  simp only [scriptTable, List.forall_mem_cons, sureBlind, failingBlind, scriptExecution,
    errorHandling, constLet, arrowFunctions, templateLiterals, destructuring, defaultParameters,
    jsdoc, strictEquality, globalVariables, consoleStatements, debuggerStatements, located, plain]
  simp [renderBlockingBlind, semicolonsBlind, unusedVariablesBlind, scriptCaseless,
    templateCaseless, declaringCaseless, of, anyVerbatim]

theorem visitCaseless :
    ∀ p ∈ [navElement, anyTag, spacingDeclaration, numberIn], p.caseless = true := by
  simp [of, navElement, anyTag, spacingDeclaration, numberIn]

theorem pixelsLowered (declared : List Char) :
    pixels (Text.lowered declared) = pixels declared := by
  have found := findLowered (visitCaseless numberIn (by simp)) declared
  unfold pixels
  rw [found]
  cases numberIn.find? declared with
  | none => rfl
  | some m => exact readNumberLowered m.text

theorem navigationBlind (s : Subject) : (navigation s.lowered).passed = (navigation s).passed := by
  have nav : s.lowered.has (tag "nav") = s.has (tag "nav") := hasLowered (tagCaseless "nav") s
  have element := firstLowered (visitCaseless navElement (by simp)) s
  simp only [navigation, located, nav, element]
  cases s.has (tag "nav") with
  | false => rfl
  | true =>
    cases s.find? navElement with
    | none => rfl
    | some m =>
      have links := countLowered (tagCaseless "a") m.text
      simp only [Option.map_some, Match.lowered, anchorTag, links]
      rfl

theorem readabilityBlind (s : Subject) : readability s.lowered = readability s := by
  have text : anyTag.remove (Text.lowered s.markup) = Text.lowered (anyTag.remove s.markup) :=
    removeLowered (visitCaseless anyTag (by simp)) s.markup
  have blanks : tokens (Text.lowered s.markup) = tokens s.markup :=
    congrArg (· + 1) (countLowered (by simp [of]) s.markup)
  simp only [readability, markupLowered, text, blanks, Text.trimLowered, Text.lengthLowered]

theorem spacingScaleBlind (s : Subject) : spacingScale s.lowered = spacingScale s := by
  have declared := listedLowered (visitCaseless spacingDeclaration (by simp)) s
  simp only [spacingScale, declared, List.mapM_map, Function.comp_def, pixelsLowered]

theorem visitBlind : ∀ row ∈ visitTable, row.2.CaseBlind := by
  simp only [visitTable, List.forall_mem_cons, sureBlind, failingBlind, formUsability,
    loadingIndicators, contactInfo, manifest, serviceWorker, offlineFallback, contrastTokens,
    elevation, rippleFeedback, located, plain]
  simp [navigationBlind, readabilityBlind, spacingScaleBlind]

end Check

def cased : List String := ["schema-002", "eslint-004", "httparch-001"]

theorem checksBlind : ∀ row ∈ checks, row.2.CaseBlind ∨ row.1 ∈ cased := by
  simp only [checks, List.forall_mem_append]
  refine ⟨⟨⟨⟨⟨⟨?_, ?_⟩, ?_⟩, ?_⟩, ?_⟩, ?_⟩, ?_⟩
  · exact fun row member => .inl (Check.accessBlind row member)
  · exact fun row member => (Check.loadingBlind row member).imp_right (by simp +contextual [cased])
  · exact fun row member =>
      (Check.discoveryBlind row member).imp_right (by simp +contextual [cased])
  · exact fun row member => .inl (Check.safetyBlind row member)
  · exact fun row member => .inl (Check.documentBlind row member)
  · exact fun row member => (Check.scriptBlind row member).imp_right (by simp +contextual [cased])
  · exact fun row member => .inl (Check.visitBlind row member)

theorem withoutCheckBlind (r : Rule) (s : Subject) :
    (Evaluation.withoutCheck r s.lowered).passed = (Evaluation.withoutCheck r s).passed := by
  unfold Evaluation.withoutCheck
  cases Evaluation.theme? r.category with
  | none => rfl
  | some theme =>
    cases theme <;> simp only [Evaluation.byTheme, Verdict.plain] <;> simp

theorem letterCaseImmaterial {r : Rule} (uncased : r.id ∉ cased) (s : Subject) :
    (evaluateRule checks r s.lowered).verdict.passed =
      (evaluateRule checks r s).verdict.passed := by
  rw [evaluatePassed, evaluatePassed]
  cases found : checks.find? r.id with
  | none => exact withoutCheckBlind r s
  | some check =>
    exact (checksBlind _ (checkListed found)).resolve_right uncased s

theorem capitalLangPasses :
    let s : Subject := ⟨"<HTML LANG='EN'>".toList, .empty, "https://a.b/"⟩
    ∃ r ∈ catalog, r.id ∉ cased ∧
      (evaluateRule checks r s.lowered).verdict.passed = true ∧
      (evaluateRule checks r s).verdict.passed = true := by
  intro s
  obtain ⟨r, found⟩ : ∃ r, rule? "html-002" = some r :=
    Option.isSome_iff_exists.mp (by decide)
  have same : r.id = "html-002" := by simpa using List.find?_some found
  have uncased : r.id ∉ cased := by
    rw [same]
    decide
  have passes : (evaluateRule checks r s).verdict.passed = true := by
    have there : (Check.language s).passed = true := by decide
    rw [evaluatePassed, same]
    exact there
  exact ⟨r, List.mem_of_find?_eq_some found, uncased,
    (letterCaseImmaterial uncased s).trans passes, passes⟩

end PageAudit
