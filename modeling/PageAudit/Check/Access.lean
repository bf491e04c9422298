import PageAudit.Check.Basic
import PageAudit.Number.Binary
/-!
Checks on access for people with disabilities.
-/
namespace PageAudit.Check

open Pattern Verdict Number

def isHexDigit (c : Char) : Bool :=
  let k := Text.caseKey c
  k.isDigit || ('a' ≤ k && k ≤ 'f')

def isZeroToFive (c : Char) : Bool := '0' ≤ c && c ≤ '5'

def lightChannel : Piece := row [verbatim "25", char isZeroToFive]

def lightColor : Piece := oneOf [
  [letters "#fff"],
  [letters "#ffffff"],
  [letters "white"],
  [letters "#f", char isHexDigit, char isHexDigit, atMost isHexDigit 3],
  [letters "rgb(", lightChannel, verbatim ",", blanks, lightChannel, verbatim ",", blanks,
    lightChannel, verbatim ")"]]

def lightBackground : Pattern :=
  of [letters "background", zeroOrMore (except [':']), verbatim ":", blanks, lightColor]

def lightText : Pattern :=
  of [letters "color", zeroOrMore (except [':']), verbatim ":", blanks, lightColor]

def whiteText : Pattern :=
  of [letters "color", zeroOrMore (except [':']), verbatim ":", blanks, anyOf ["#fff", "white"]]

def imgWithAlt : Pattern := tagHolding "img" "alt="

def altText (s : Subject) : Except CheckError Verdict := do
  let images := s.findAll imgTag
  let missing := images.filter fun img => !imgWithAlt.occursIn img
  let evidence ← s.excerptOfFirst (!missing.isEmpty) missing 1
  return located missing.isEmpty
    (if images.isEmpty then "No images found on page."
     else s!"{images.length} images found, {missing.length} without alt text.")
    "Add descriptive alt text to all <img> tags. Use alt=\"\" for decorative images."
    evidence

def colorContrast (s : Subject) : Verdict :=
  let suspicious := s.has lightBackground && s.has lightText
  located (!suspicious)
    (if suspicious then
      "Potential low-contrast combinations detected in CSS. " ++
        "Use tools like WebAIM contrast checker."
    else
      "No obvious contrast issues detected in inline styles. " ++
        "Use contrast checker tools for thorough verification.")
    ("Ensure 4.5:1 contrast ratio for normal text, 3:1 for large text. " ++
      "Test with WebAIM Contrast Checker.")
    (s.excerptIf suspicious whiteText 2)

def interactiveTag : Pattern :=
  of [verbatim "<", anyOf ["button", "a", "input", "select", "textarea"], inTag, verbatim ">"]

def negativeTabindex : Pattern := of [letters "tabindex=", quote, verbatim "-1", quote]

def keyboardAccess (s : Subject) : Verdict :=
  let interactive := s.count interactiveTag
  let withTabindex := s.count (word "tabindex=")
  let negative := s.count negativeTabindex
  located (negative == 0 || scaled interactive (1 / 2) < withTabindex)
    (s!"{interactive} interactive elements, {withTabindex} with tabindex, " ++
      s!"{negative} with tabindex=-1")
    ("Ensure all interactive elements are keyboard accessible. " ++
      "Avoid tabindex=\"-1\" on interactive elements.")
    (s.excerptIf (negative != 0) negativeTabindex 2)

def semanticHtml (s : Subject) : Verdict :=
  let present := ["nav", "main", "header", "footer"].map fun name => (name, s.has (opens name))
  let found := (present.filter Prod.snd).length
  located (2 ≤ found)
    (s!"Found {found}/4 key semantic elements: " ++
      ", ".intercalate (present.map fun (name, there) => s!"{name}({truth there})"))
    ("Use semantic HTML5 elements like <nav>, <main>, <header>, " ++
      "<footer>, <article>, and <section>.")
    (s.excerptIf (found < 2) (opens "body") 5)

def focusRule : Piece := row [letters ":focus", blanks, verbatim "\x7b"]

def focusWithoutOutline : Pattern :=
  of [focusRule, blanks, letters "outline", blanks, verbatim ":", blanks, letters "none"]

def focusIndicators (s : Subject) : Verdict :=
  let removed := s.has focusWithoutOutline
  located (!removed)
    (if removed then "CSS removes focus outline without providing alternative."
     else "Focus styles appear to be preserved.")
    ("Never use :focus \x7b outline: none; \x7d " ++
      "without providing a visible alternative focus indicator.")
    (s.excerptIf removed (of [focusRule]) 2)

def roleTag : Pattern :=
  of [verbatim "<", anyOf ["div", "button", "span", "a"], inTag, letters "role="]

def ariaLabels (s : Subject) : Verdict :=
  let label := s.has (word "aria-label=")
  let labelledBy := s.has (word "aria-labelledby=")
  let describedBy := s.has (word "aria-describedby=")
  let passed := label || labelledBy || describedBy
  located passed
    (s!"ARIA attributes found: aria-label({truth label}), " ++
      s!"aria-labelledby({truth labelledBy}), aria-describedby({truth describedBy})")
    "Use ARIA labels to enhance accessibility of custom widgets and dynamic content."
    (s.excerptIf (!passed) roleTag 2)

def genericLink : Pattern :=
  of [letters "<a", inTag, verbatim ">", blanks,
    anyOf ["click here", "here", "more", "read more", "link"], blanks, letters "</a>"]

def genericLinkStart : Pattern :=
  of [letters "<a", inTag, verbatim ">", anyOf ["click here", "here", "more", "read more"]]

def hrefTag : Pattern := of [letters "<a", inTag, letters "href="]

def linkText (s : Subject) : Verdict :=
  let generic := s.count genericLink
  let total := s.count hrefTag
  located (generic == 0)
    s!"{total} links found, {generic} with generic text like \"click here\" or \"more\""
    ("Use descriptive link text that makes sense out of context. " ++
      "Avoid \"click here\", \"read more\", etc.")
    (s.excerptIf (generic != 0) genericLinkStart 1)

def forLabel : Pattern :=
  of [letters "<label", inTag, letters "for=", quote, oneOrMore (except ['"', '\'']), quote, inTag,
    verbatim ">"]

def formLabels (s : Subject) : Verdict :=
  let inputs := s.count (tag "input")
  let labelled := s.count forLabel
  let passed := inputs == 0 || scaled inputs (4 / 5) ≤ labelled
  located passed
    (s!"{inputs} inputs found, {labelled} with associated labels " ++
      s!"({percent labelled inputs}%)")
    "Every form input must have an associated <label> element with for=\"id\" attribute."
    (s.excerptIf (!passed) (tag "input") 2)

def skipLinkPattern : Pattern :=
  of [letters "<a", inTag, letters "href=", quote, verbatim "#", anyOf ["main", "content", "skip"],
    quote, inTag, verbatim ">", anyOf ["skip", "skip to", "jump to"]]

def skipLink (s : Subject) : Verdict :=
  let there := s.has skipLinkPattern
  located there (if there then "Skip navigation link found." else "No skip link detected.")
    ("Add <a href=\"#main\" class=\"skip-link\">Skip to main content</a> " ++
      "at the beginning of the page.")
    (s.excerptIf (!there) (opens "body") 4)

def mediaTranscripts (s : Subject) : Verdict :=
  let audio := s.has (tag "audio")
  let video := s.has (tag "video")
  let transcript := s.has (words ["transcript", "transkript", "текст"])
  plain (!(audio || video) || transcript)
    s!"Audio: {truth audio}, Video: {truth video}, Transcript: {truth transcript}"
    "Provide text transcripts for all audio/video content for accessibility."

def linkSpacing (s : Subject) : Verdict :=
  let links := s.count anchorTag
  let interactive := s.count (of [verbatim "<", anyOf ["a", "button"], inTag, verbatim ">"])
  let spacing := s.has (words ["padding", "margin"])
  let shown := if spacing then "CSS found" else "Check manually"
  plain (links < 10 || spacing)
    s!"{links} links, {interactive} interactive elements. Spacing: {shown}"
    "Ensure sufficient spacing between links and buttons (min 8px) for touch accessibility."

def divHandler : Pattern := of [letters "<div", inTag, letters "onclick="]

def divButtons (s : Subject) : Verdict :=
  let handlers := s.has (word "onclick=")
  let divs := s.has divHandler
  let buttons := s.has (tag "button")
  let passed := !divs || buttons
  located passed
    (s!"onclick handlers: {foundNone handlers}, <div> as buttons: {foundNone divs}, " ++
      s!"Real buttons: {foundNone buttons}")
    ("Use semantic <button> elements instead of <div onclick=\"...\">. " ++
      "Test all functionality with keyboard only.")
    (s.excerptIf (!passed) divHandler 2)

end PageAudit.Check
