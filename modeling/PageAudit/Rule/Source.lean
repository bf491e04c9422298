import PageAudit.Rule.Basic
/-!
Sources of rules: named groups of the catalog, one for each standard. A source that names no rule
stands for all of them.
-/
namespace PageAudit

structure RuleSource where
  id : String
  name : String
  organization : String
  description : String
  url : String
  ruleIds : List String
  deriving DecidableEq, Repr

namespace RuleSource

def select (s : RuleSource) (rules : List Rule) : List Rule :=
  if s.ruleIds.isEmpty then rules else rules.filter fun r => s.ruleIds.contains r.id

def all : List RuleSource := [
  { id := "all"
    name := "All Sources (Comprehensive)"
    organization := "Mixed"
    description :=
      "Validate against all web design and development guidelines from all sources for a " ++
      "complete analysis."
    url := ""
    ruleIds := [] },
  { id := "wcag"
    name := "WCAG 2.1 (Web Content Accessibility Guidelines)"
    organization := "W3C"
    description :=
      "International standard for web accessibility covering perceivable, operable, " ++
      "understandable, and robust content."
    url := "https://www.w3.org/WAI/WCAG21/quickref/"
    ruleIds := ["wcag-001", "wcag-002", "wcag-003", "wcag-004", "wcag-005", "wcag-006"] },
  { id := "core-web-vitals"
    name := "Google Core Web Vitals"
    organization := "Google"
    description :=
      "Key metrics for measuring user experience: LCP, CLS, FID/INP, and overall page performance."
    url := "https://web.dev/vitals/"
    ruleIds := ["cwv-001", "cwv-002", "cwv-003", "perf-001", "perf-002", "perf-003"] },
  { id := "seo"
    name := "SEO Best Practices"
    organization := "Google Search Central"
    description :=
      "Search engine optimization guidelines to improve visibility and rankings in search results."
    url := "https://developers.google.com/search/docs"
    ruleIds := ["seo-001", "seo-002", "seo-003", "seo-004", "seo-005", "seo-006", "seo-007"] },
  { id := "security"
    name := "Web Security Standards"
    organization := "OWASP"
    description :=
      "Critical security practices including HTTPS, CSP, security headers, and input validation."
    url := "https://owasp.org/www-project-top-ten/"
    ruleIds := ["sec-001", "sec-002", "sec-003", "sec-004", "sec-005"] },
  { id := "html-css"
    name := "HTML & CSS Best Practices"
    organization := "W3C / MDN"
    description := "Standards-compliant markup, responsive design, and optimized CSS delivery."
    url := "https://www.w3.org/standards/"
    ruleIds := ["html-001", "html-002", "html-003", "html-004", "css-001", "css-002", "css-003"] },
  { id := "javascript"
    name := "JavaScript Best Practices"
    organization := "MDN Web Docs"
    description :=
      "Modern JavaScript patterns including performance optimization, error handling, and async " ++
      "loading."
    url := "https://developer.mozilla.org/en-US/docs/Web/JavaScript"
    ruleIds := ["js-001", "js-002", "js-003"] },
  { id := "mobile"
    name := "Mobile Optimization"
    organization := "Google Web.dev"
    description :=
      "Touch-friendly interfaces, mobile-first design, and optimization for mobile networks."
    url := "https://web.dev/mobile/"
    ruleIds := ["mobile-001", "mobile-002", "mobile-003"] },
  { id := "ux"
    name := "User Experience Guidelines"
    organization := "Nielsen Norman Group"
    description :=
      "Research-based UX principles for navigation, forms, feedback, and overall usability."
    url := "https://www.nngroup.com/"
    ruleIds := ["ux-001", "ux-002", "ux-003"] },
  { id := "content"
    name := "Content Quality Standards"
    organization := "Google E-A-T"
    description :=
      "Guidelines for clear, readable content and establishing expertise, authority, and " ++
      "trustworthiness."
    url := "https://developers.google.com/search/docs/fundamentals/creating-helpful-content"
    ruleIds := ["content-001", "content-002"] },
  { id := "a11y"
    name := "Practical Accessibility Checklists"
    organization := "The A11Y Project / WebAIM"
    description :=
      "Hands-on accessibility checks for links, forms, skip navigation, media and keyboard use."
    url := "https://www.a11yproject.com/checklist/"
    ruleIds := ["a11y-001", "a11y-002", "a11y-003", "webaim-001", "webaim-002", "webaim-003"] },
  { id := "js-style"
    name := "JavaScript Style Guides"
    organization := "Airbnb / Google / ESLint"
    description := "Code style and quality conventions for inline JavaScript."
    url := "https://github.com/airbnb/javascript"
    ruleIds := [
      "airbnb-001", "airbnb-002", "airbnb-003", "airbnb-004", "airbnb-005", "googlejs-001",
      "googlejs-002", "googlejs-003", "googlejs-004", "eslint-001", "eslint-002", "eslint-003",
      "eslint-004"] },
  { id := "lighthouse"
    name := "Lighthouse & HTTP Archive Audits"
    organization := "Google / HTTP Archive"
    description :=
      "Lab performance audits for images, blocking resources, payload size and request counts."
    url := "https://developer.chrome.com/docs/lighthouse/"
    ruleIds := [
      "lighthouse-001", "lighthouse-002", "lighthouse-003", "lighthouse-004", "httparch-001",
      "httparch-002"] },
  { id := "pwa"
    name := "Progressive Web App Checklist"
    organization := "Google"
    description :=
      "Installability, offline support and secure context requirements for progressive web apps."
    url := "https://web.dev/pwa-checklist/"
    ruleIds := ["pwa-001", "pwa-002", "pwa-003", "pwa-004"] },
  { id := "social"
    name := "Social Sharing & Structured Data"
    organization := "Open Graph / Schema.org"
    description := "Link previews on social platforms and machine-readable page data."
    url := "https://ogp.me/"
    ruleIds := ["og-001", "og-002", "og-003", "schema-001", "schema-002"] },
  { id := "design-systems"
    name := "Design System Guidelines"
    organization := "IBM Carbon / Google Material"
    description :=
      "Spacing, color, elevation and interaction feedback conventions from established design " ++
      "systems."
    url := "https://carbondesignsystem.com/"
    ruleIds := ["carbon-001", "carbon-002", "material-001", "material-002"] }]

def find? (id : String) : Option RuleSource := all.find? fun s => s.id == id

end RuleSource

end PageAudit
