import PageAudit.Check.Access
import PageAudit.Check.Document
import PageAudit.Check.Loading
import PageAudit.Check.ScriptStyle
import PageAudit.Check.Scripting
import PageAudit.Check.Visiting
/-!
The table from rule ids to checks. Several ids share one check where the catalog repeats a concern.
-/
namespace PageAudit

structure NamedCheck where
  concern : String
  run : Check

abbrev CheckTable := List (String × NamedCheck)

def CheckTable.find? (table : CheckTable) (id : String) : Option NamedCheck := table.lookup id

namespace NamedCheck

def sure (concern : String) (f : Subject → Verdict) : NamedCheck := ⟨concern, .ofVerdict f⟩

def failing (concern : String) (f : Subject → Except CheckError Verdict) : NamedCheck :=
  ⟨concern, .ofErrors f⟩

end NamedCheck

open Check NamedCheck

def accessTable : CheckTable := [
  ("wcag-001", failing "alt text" altText),
  ("wcag-002", sure "color contrast" colorContrast),
  ("wcag-003", sure "keyboard access" keyboardAccess),
  ("wcag-004", sure "semantic html" semanticHtml),
  ("wcag-005", sure "focus indicators" focusIndicators),
  ("wcag-006", sure "aria labels" ariaLabels),
  ("a11y-001", sure "link text" linkText),
  ("a11y-002", sure "form labels" formLabels),
  ("a11y-003", sure "skip link" skipLink),
  ("webaim-001", sure "media transcripts" mediaTranscripts),
  ("webaim-002", sure "link spacing" linkSpacing),
  ("webaim-003", sure "div buttons" divButtons)]

def loadingTable : CheckTable := [
  ("cwv-001", failing "lazy loading" lazyLoading),
  ("perf-001", failing "lazy loading" lazyLoading),
  ("cwv-002", failing "layout shift" layoutShift),
  ("cwv-003", sure "script execution" scriptExecution),
  ("perf-002", sure "image optimization" imageOptimization),
  ("lighthouse-001", sure "image optimization" imageOptimization),
  ("perf-003", failing "render blocking" renderBlocking),
  ("lighthouse-002", failing "render blocking" renderBlocking),
  ("lighthouse-003", sure "payload size" payloadSize),
  ("lighthouse-004", sure "passive listeners" passiveListeners),
  ("httparch-001", failing "third party scripts" thirdPartyScripts),
  ("httparch-002", sure "request count" requestCount),
  ("mobile-001", failing "touch targets" touchTargets),
  ("mobile-002", sure "interstitials" interstitials),
  ("mobile-003", sure "mobile payload" mobilePayload)]

def discoveryTable : CheckTable := [
  ("seo-001", sure "title" title),
  ("seo-002", sure "meta description" metaDescription),
  ("seo-003", sure "heading hierarchy" headingHierarchy),
  ("seo-004", sure "structured data" structuredData),
  ("seo-005", sure "sitemap" sitemap),
  ("seo-006", sure "canonical" canonical),
  ("seo-007", failing "url structure" urlStructure),
  ("og-001", sure "open graph" openGraph),
  ("og-002", sure "og image dimensions" ogImageDimensions),
  ("og-003", sure "twitter card" twitterCard),
  ("schema-001", sure "json ld" jsonLd),
  ("schema-002", sure "schema types" schemaTypes)]

def safetyTable : CheckTable := [
  ("sec-001", failing "https" https),
  ("pwa-003", failing "https" https),
  ("sec-002", sure "content security policy" contentSecurityPolicy),
  ("sec-003", sure "security headers" securityHeaders),
  ("sec-004", sure "input validation" inputValidation),
  ("sec-005", sure "baseline security headers" baselineSecurityHeaders)]

def documentTable : CheckTable := [
  ("html-001", sure "valid html" validHtml),
  ("html-002", sure "language" language),
  ("html-003", sure "meta tags" metaTags),
  ("html-004", sure "doctype" doctype),
  ("css-001", sure "external css" externalCss),
  ("css-002", sure "css delivery" cssDelivery),
  ("css-003", sure "responsive design" responsiveDesign)]

def scriptTable : CheckTable := [
  ("js-001", sure "script execution" scriptExecution),
  ("js-002", failing "render blocking" renderBlocking),
  ("js-003", sure "error handling" errorHandling),
  ("airbnb-001", sure "const let" constLet),
  ("airbnb-002", sure "arrow functions" arrowFunctions),
  ("airbnb-003", sure "template literals" templateLiterals),
  ("airbnb-004", sure "destructuring" destructuring),
  ("airbnb-005", sure "default parameters" defaultParameters),
  ("googlejs-001", sure "semicolons" semicolons),
  ("googlejs-002", sure "jsdoc" jsdoc),
  ("googlejs-003", sure "strict equality" strictEquality),
  ("googlejs-004", sure "global variables" globalVariables),
  ("eslint-001", sure "unused variables" unusedVariables),
  ("eslint-002", sure "console statements" consoleStatements),
  ("eslint-003", sure "debugger statements" debuggerStatements),
  ("eslint-004", sure "duplicate keys" duplicateKeys)]

def visitTable : CheckTable := [
  ("ux-001", sure "navigation" navigation),
  ("ux-002", sure "form usability" formUsability),
  ("ux-003", sure "loading indicators" loadingIndicators),
  ("content-001", failing "readability" readability),
  ("content-002", sure "contact info" contactInfo),
  ("pwa-001", sure "manifest" manifest),
  ("pwa-002", sure "service worker" serviceWorker),
  ("pwa-004", sure "offline fallback" offlineFallback),
  ("carbon-001", failing "spacing scale" spacingScale),
  ("carbon-002", sure "contrast tokens" contrastTokens),
  ("material-001", sure "elevation" elevation),
  ("material-002", sure "ripple feedback" rippleFeedback)]

def checks : CheckTable :=
  accessTable ++ loadingTable ++ discoveryTable ++ safetyTable ++ documentTable ++ scriptTable ++
    visitTable

end PageAudit
