import PageAudit.Check.Basic
import PageAudit.Check.Discovery
/-!
Checks on the head and the structure of a document, on its transport, on the headers that came with
it, and on what is entered into forms.
-/
namespace PageAudit.Check

open Pattern Verdict

def unclosedTag : Pattern :=
  of [verbatim "<", group [anyOf ["div", "p", "span", "a", "button"]], inTag, verbatim ">",
    absent [zeroOrMore anyChar, verbatim "</", repeated, verbatim ">"]]

def obsoleteTag : Pattern := of [verbatim "<", anyOf ["font", "center", "marquee", "blink"]]

def openingPart : Nat := 5000

def validHtml (s : Subject) : Verdict :=
  let unclosed := unclosedTag.occursIn (s.markup.take openingPart)
  let obsolete := s.has obsoleteTag
  located (!unclosed && !obsolete)
    (if obsolete then "Found obsolete HTML tags (font, center, marquee, etc.)."
     else if unclosed then "Found elements without a matching closing tag."
     else "No obvious HTML validation errors detected.")
    "Use W3C HTML Validator to check for all validation errors. Remove obsolete tags."
    (if obsolete then excerpt s.markup obsoleteTag 2
     else s.excerptIf unclosed (opens "html") 4)

def language (s : Subject) : Verdict :=
  let there := s.has (tagHolding "html" "lang=")
  located there
    (if there then "HTML lang attribute is present."
     else "Missing lang attribute on <html> tag.")
    "Add lang=\"en\" (or appropriate language code) to <html> tag."
    (s.excerptIf (!there) (opens "html") 1)

def doctype (s : Subject) : Verdict :=
  let there := s.has (of [letters "<!doctype", someBlanks, letters "html"])
  plain there
    (if there then "Document has proper HTML5 DOCTYPE."
     else "Missing or incorrect DOCTYPE declaration.")
    "Add <!DOCTYPE html> as the first line of your HTML document."

def metaTags (s : Subject) : Verdict :=
  let charset := s.has (tagHolding "meta" "charset=")
  let viewport := s.has viewportMeta
  let description := s.has descriptionMeta
  located (charset && viewport)
    (s!"Charset: {mark charset}, Viewport: {mark viewport}, " ++
      s!"Description: {mark description}")
    ("Add essential meta tags: <meta charset=\"UTF-8\"> and " ++
      "<meta name=\"viewport\" content=\"width=device-width, initial-scale=1\">")
    (s.excerptIf (!viewport) headStart 3)

def styleField : Pattern := of [char Text.isBlank, letters "style="]

def externalCss (s : Subject) : Verdict :=
  let blocks := s.count (tag "style")
  let outside := s.count stylesheetLink
  let fields := s.count styleField
  located (0 < outside && blocks ≤ 1 && fields < 10)
    (s!"External: {outside}, Inline <style>: {blocks}, " ++
      s!"Inline style= attributes: {fields}")
    ("Use external CSS files for better caching and maintainability. " ++
      "Inline only critical CSS.")
    (if 10 ≤ fields then excerpt s.markup styleField 2
     else s.excerptIf (1 < blocks) (opens "style") 2)

def preloadedStyle : Pattern :=
  of [letters "<link", someInTag, valued "rel" "preload", someInTag, letters "as=", quote,
    anyOf ["style", "font"], quote]

def cssDelivery (s : Subject) : Verdict :=
  let preload := s.has preloadedStyle
  let blocks := s.count (tag "style")
  let outside := s.count stylesheetLink
  let passed := preload || (0 < blocks && 0 < outside)
  located passed
    s!"Preload: {truth preload}, Inline styles: {blocks}, External: {outside}"
    ("Inline critical CSS and use <link rel=\"preload\"> for fonts. " ++
      "Defer non-critical CSS.")
    (if passed then none
     else if 0 < outside then excerpt s.markup stylesheetLink 2
     else excerpt s.markup headStart 5)

def responsiveDesign (s : Subject) : Verdict :=
  let query := s.has (word "@media")
  let viewport := s.has viewportMeta
  located (query && viewport)
    s!"Media queries: {yesNo query}, Viewport meta: {yesNo viewport}"
    "Implement responsive design with @media queries and viewport meta tag."
    (if !query then excerpt s.markup (opens "style") 4
     else s.excerptIf (!viewport) headStart 3)

def https (s : Subject) : Except CheckError Verdict := do
  let address ← s.address
  let secure := address.scheme == "https".toList
  return plain secure
    (if secure then "Site uses HTTPS encryption." else "Site uses insecure HTTP protocol.")
    ("Migrate to HTTPS with a valid SSL certificate. " ++
      "Use services like Let's Encrypt for free certificates.")

def policyField : String := "content-security-policy"

def typeField : String := "x-content-type-options"

def frameField : String := "x-frame-options"

def referrerField : String := "referrer-policy"

def sent (s : Subject) (name : String) : Bool := (s.headers.filled? name).isSome

def contentSecurityPolicy (s : Subject) : Verdict :=
  let policy := s.headers.filled? policyField
  plain policy.isSome
    (match policy with
      | some text => s!"CSP header present: {String.ofList (text.toList.take 100)}..."
      | none => "Missing Content-Security-Policy header.")
    "Implement Content-Security-Policy header to prevent XSS attacks."

def securityHeaders (s : Subject) : Verdict :=
  let present := [typeField, frameField, referrerField].countP (sent s)
  plain (2 ≤ present)
    (s!"Security headers: X-Content-Type({truth (sent s typeField)}), " ++
      s!"X-Frame({truth (sent s frameField)}), Referrer-Policy({truth (sent s referrerField)})")
    ("Add security headers: X-Content-Type-Options: nosniff, " ++
      "X-Frame-Options: DENY, Referrer-Policy: strict-origin.")

def baselineSecurityHeaders (s : Subject) : Verdict :=
  plain ([policyField, typeField, frameField].any (sent s))
    (s!"CSP: {mark (sent s policyField)}, X-Content-Type-Options: {mark (sent s typeField)}, " ++
      s!"X-Frame-Options: {mark (sent s frameField)}")
    ("Implement security headers: Content-Security-Policy, " ++
      "X-Content-Type-Options: nosniff, X-Frame-Options: DENY")

def inputValidation (s : Subject) : Verdict :=
  let forms := s.has (tag "form")
  let validated := s.has (words ["required", "pattern=", "minlength=", "maxlength="])
  plain (!forms || validated)
    (if forms then s!"Forms found. Client-side validation: {yesNo validated}"
     else "No forms found on page.")
    "Implement both client-side (HTML5) and server-side input validation for all forms."

end PageAudit.Check
