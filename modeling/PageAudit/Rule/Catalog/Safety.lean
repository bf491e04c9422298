import PageAudit.Rule.Basic
/-!
Rules of the catalog: transport and headers, and laboratory audits.
-/
namespace PageAudit.Catalog

def safety : List Rule := [
  { id := "sec-001"
    name := "Use HTTPS Everywhere"
    category := "Security"
    severity := .error
    description := "Serve every page over HTTPS with a valid TLS certificate."
    rationale :=
      "HTTPS protects the integrity and confidentiality of data between users and the site."
    impact :=
      "Plain HTTP exposes users to eavesdropping and tampering, and browsers flag it as not secure."
    source := "OWASP Transport Layer Security Cheat Sheet"
    sourceUrl :=
      "https://cheatsheetseries.owasp.org/cheatsheets/Transport_Layer_Security_Cheat_Sheet.html"
    goodExamples := ["https://example.com with HSTS", "Redirect all HTTP traffic to HTTPS"]
    badExamples := ["http://example.com", "Mixed content on HTTPS pages"] },
  { id := "sec-002"
    name := "Implement Content Security Policy"
    category := "Security"
    severity := .warning
    description :=
      "Send a Content-Security-Policy header restricting where scripts and resources load from."
    rationale := "CSP is an effective defence-in-depth layer against cross-site scripting."
    impact := "Without CSP, injected scripts run with full page privileges."
    source := "OWASP Content Security Policy Cheat Sheet"
    sourceUrl :=
      "https://cheatsheetseries.owasp.org/cheatsheets/Content_Security_Policy_Cheat_Sheet.html"
    goodExamples := ["Content-Security-Policy: default-src 'self'; script-src 'self'"]
    badExamples := ["No CSP header", "script-src 'unsafe-inline' 'unsafe-eval' *"] },
  { id := "sec-003"
    name := "Set Security Headers"
    category := "Security"
    severity := .warning
    description := "Send X-Content-Type-Options, X-Frame-Options and Referrer-Policy headers."
    rationale :=
      "These headers disable MIME sniffing, block clickjacking and limit referrer leakage."
    impact :=
      "Missing headers leave the site open to clickjacking and content-type confusion attacks."
    source := "OWASP HTTP Headers Cheat Sheet"
    sourceUrl := "https://cheatsheetseries.owasp.org/cheatsheets/HTTP_Headers_Cheat_Sheet.html"
    goodExamples := [
      "X-Content-Type-Options: nosniff", "X-Frame-Options: DENY",
      "Referrer-Policy: strict-origin-when-cross-origin"]
    badExamples := ["No security headers", "X-Frame-Options: ALLOWALL"] },
  { id := "sec-004"
    name := "Validate All User Input"
    category := "Security"
    severity := .error
    description :=
      "Validate form input on the client for usability and always on the server for security."
    rationale := "Unvalidated input is the root cause of injection attacks."
    impact := "Missing validation enables injection, data corruption and poor user feedback."
    source := "OWASP Input Validation Cheat Sheet"
    sourceUrl := "https://cheatsheetseries.owasp.org/cheatsheets/Input_Validation_Cheat_Sheet.html"
    goodExamples := [
      "<input type=\"email\" required maxlength=\"254\">", "Server-side allow-list validation"]
    badExamples := ["Forms without any validation", "Client-side validation only"] },
  { id := "sec-005"
    name := "Send Baseline Security Headers"
    category := "Security"
    severity := .warning
    description :=
      "Send at least one of Content-Security-Policy, X-Content-Type-Options or X-Frame-Options."
    rationale :=
      "Any of these headers shows the server is configured with basic browser protections."
    impact := "A response with none of them has no browser-enforced protection at all."
    source := "OWASP Secure Headers Project"
    sourceUrl := "https://owasp.org/www-project-secure-headers/"
    goodExamples := [
      "X-Content-Type-Options: nosniff", "Content-Security-Policy: default-src 'self'"]
    badExamples := ["Default server configuration without security headers"] }]

def auditing : List Rule := [
  { id := "lighthouse-001"
    name := "Properly Size and Encode Images"
    category := "Performance (Lighthouse)"
    severity := .warning
    description := "Serve next-gen image formats and defer offscreen images."
    rationale := "Images are usually the largest part of a page's weight."
    impact := "Oversized legacy images slow down loading and waste data."
    source := "Google Lighthouse"
    sourceUrl := "https://developer.chrome.com/docs/lighthouse/performance/uses-webp-images/"
    goodExamples := [
      "<source type=\"image/avif\" srcset=\"hero.avif\">", "<img loading=\"lazy\" ...>"]
    badExamples := ["5MB PNG hero images"] },
  { id := "lighthouse-002"
    name := "Avoid Render-Blocking Resources"
    category := "Performance (Lighthouse)"
    severity := .warning
    description := "Defer scripts and non-critical stylesheets that block the first paint."
    rationale := "Blocking resources must finish downloading before anything renders."
    impact := "Users stare at a blank page while blocking resources load."
    source := "Google Lighthouse"
    sourceUrl :=
      "https://developer.chrome.com/docs/lighthouse/performance/render-blocking-resources/"
    goodExamples := ["<script defer src=\"app.js\">"]
    badExamples := ["<script src=\"app.js\"> in <head>"] },
  { id := "lighthouse-003"
    name := "Avoid Enormous Network Payloads"
    category := "Performance (Lighthouse)"
    severity := .warning
    description := "Keep the total network payload under 1.6MB."
    rationale := "Large payloads cost users money and correlate with long load times."
    impact := "Heavy pages load slowly on mobile networks."
    source := "Google Lighthouse"
    sourceUrl := "https://developer.chrome.com/docs/lighthouse/performance/total-byte-weight/"
    goodExamples := ["Minified and compressed assets", "Code splitting"]
    badExamples := ["Multi-megabyte bundles"] },
  { id := "lighthouse-004"
    name := "Use Passive Event Listeners"
    category := "Performance (Lighthouse)"
    severity := .info
    description := "Mark touch and wheel listeners as passive to improve scrolling."
    rationale := "Passive listeners let the browser scroll without waiting for JavaScript."
    impact := "Non-passive touch listeners make scrolling janky."
    source := "Google Lighthouse"
    sourceUrl :=
      "https://developer.chrome.com/docs/lighthouse/best-practices/uses-passive-event-listeners/"
    goodExamples := ["addEventListener(\"touchstart\", onTouch, \x7b passive: true \x7d);"]
    badExamples := ["addEventListener(\"touchstart\", onTouch);"] },
  { id := "httparch-001"
    name := "Load Third-Party Scripts Asynchronously"
    category := "Performance (HTTP Archive)"
    severity := .warning
    description := "Third-party scripts should be loaded with async or defer."
    rationale := "Third-party code is a leading cause of slow pages on the web."
    impact := "Synchronous third-party scripts block rendering on servers you do not control."
    source := "HTTP Archive Web Almanac"
    sourceUrl := "https://almanac.httparchive.org/en/2022/third-parties"
    goodExamples := ["<script async src=\"https://cdn.example.net/widget.js\">"]
    badExamples := ["<script src=\"https://cdn.example.net/widget.js\">"] },
  { id := "httparch-002"
    name := "Limit the Number of HTTP Requests"
    category := "Performance (HTTP Archive)"
    severity := .info
    description := "Keep the number of requested resources under 50."
    rationale := "Every request adds latency, especially on high-latency mobile networks."
    impact := "Many small requests slow down page loads."
    source := "HTTP Archive Web Almanac"
    sourceUrl := "https://almanac.httparchive.org/en/2022/page-weight"
    goodExamples := ["Bundled JS/CSS", "SVG sprites", "Inlined critical resources"]
    badExamples := ["Dozens of separate scripts and stylesheets"] }]

end PageAudit.Catalog
