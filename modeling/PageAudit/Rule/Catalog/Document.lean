import PageAudit.Rule.Basic
/-!
Rules of the catalog: the document and its style sheets.
-/
namespace PageAudit.Catalog

def document : List Rule := [
  { id := "html-001"
    name := "Use Valid HTML5"
    category := "HTML Best Practices"
    severity := .warning
    description := "HTML should validate against W3C HTML5 standards with no errors."
    rationale :=
      "Valid HTML ensures consistent rendering across browsers and assistive technologies."
    impact := "Invalid HTML can cause rendering issues, accessibility problems, and SEO penalties."
    source := "W3C HTML5 Specification"
    sourceUrl := "https://www.w3.org/TR/html52/"
    goodExamples := ["Properly closed tags", "Valid nesting", "Correct attribute usage"]
    badExamples := [
      "Unclosed tags", "Invalid nesting (div inside p)", "Obsolete elements (font, center)"] },
  { id := "html-002"
    name := "Include DOCTYPE and Language Declaration"
    category := "HTML Best Practices"
    severity := .error
    description :=
      "Every HTML document must start with <!DOCTYPE html> and specify language with <html " ++
      "lang=\"en\">."
    rationale :=
      "DOCTYPE ensures standards mode rendering; lang attribute helps screen readers and search " ++
      "engines."
    impact :=
      "Missing DOCTYPE triggers quirks mode with inconsistent rendering; missing lang confuses " ++
      "assistive tech."
    source := "W3C HTML5 Specification"
    sourceUrl := "https://www.w3.org/TR/html52/syntax.html#the-doctype"
    goodExamples := ["<!DOCTYPE html>", "<html lang=\"en\">", "<html lang=\"de\">"]
    badExamples := ["No DOCTYPE", "Old DOCTYPE (HTML4/XHTML)", "<html> without lang"] },
  { id := "html-003"
    name := "Include Essential Meta Tags"
    category := "HTML Best Practices"
    severity := .error
    description := "Include charset, viewport, and description meta tags in <head>."
    rationale := "Meta tags ensure correct rendering, mobile responsiveness, and SEO."
    impact :=
      "Missing meta tags cause encoding issues, poor mobile experience, and reduced search " ++
      "visibility."
    source := "MDN Web Docs"
    sourceUrl := "https://developer.mozilla.org/en-US/docs/Web/HTML/Element/meta"
    goodExamples := [
      "<meta charset=\"UTF-8\">",
      "<meta name=\"viewport\" content=\"width=device-width, initial-scale=1\">"]
    badExamples := [
      "No charset declaration", "No viewport meta tag", "User-scalable=no (accessibility issue)"] },
  { id := "html-004"
    name := "Declare the HTML5 DOCTYPE"
    category := "HTML Best Practices"
    severity := .error
    description := "Start every document with <!DOCTYPE html>."
    rationale := "Without a DOCTYPE browsers fall back to quirks mode."
    impact := "Quirks mode renders layouts inconsistently across browsers."
    source := "W3C HTML5 Specification"
    sourceUrl := "https://html.spec.whatwg.org/multipage/syntax.html#the-doctype"
    goodExamples := ["<!DOCTYPE html>"]
    badExamples := ["No DOCTYPE", "<!DOCTYPE HTML PUBLIC \"-//W3C//DTD HTML 4.01//EN\">"] },
  { id := "css-001"
    name := "Use External CSS Files"
    category := "CSS Best Practices"
    severity := .info
    description := "Prefer external stylesheets over inline styles for maintainability and caching."
    rationale := "External CSS can be cached, minified, and maintained separately from HTML."
    impact := "Inline styles bloat HTML, prevent caching, and make maintenance difficult."
    source := "Google Web Fundamentals"
    sourceUrl := "https://web.dev/extract-critical-css/"
    goodExamples := ["<link rel=\"stylesheet\" href=\"styles.css\">", "Inline only critical CSS"]
    badExamples := [
      "<style> tags in body", "Excessive inline styles", "Style attributes everywhere"] },
  { id := "css-002"
    name := "Optimize CSS Delivery"
    category := "CSS Best Practices"
    severity := .warning
    description :=
      "Inline critical CSS and defer non-critical CSS to improve First Contentful Paint."
    rationale :=
      "CSS is render-blocking. Optimizing delivery significantly improves perceived performance."
    impact := "Render-blocking CSS delays page rendering and frustrates users."
    source := "Google Web.dev"
    sourceUrl := "https://web.dev/defer-non-critical-css/"
    goodExamples := [
      "Inline critical CSS in <head>", "<link rel=\"preload\"> for fonts",
      "Defer non-critical CSS"]
    badExamples := ["Large CSS file blocking render", "No CSS optimization"] },
  { id := "css-003"
    name := "Use Responsive Design"
    category := "CSS Best Practices"
    severity := .error
    description :=
      "Implement responsive design with media queries, flexible layouts, and flexible images."
    rationale := "60%+ of traffic is mobile. Non-responsive sites provide poor mobile experience."
    impact :=
      "Non-responsive sites are unusable on mobile, hurting mobile rankings and conversions."
    source := "Google Mobile-Friendly Test"
    sourceUrl := "https://search.google.com/test/mobile-friendly"
    goodExamples := [
      "@media queries", "Flexbox/Grid", "Relative units (%, em, rem)", "max-width on images"]
    badExamples := ["Fixed pixel widths", "No media queries", "Horizontal scrolling on mobile"] }]

end PageAudit.Catalog
