import PageAudit.Rule.Basic
/-!
Rules of the catalog: access for people with disabilities, and practical lists on it.
-/
namespace PageAudit.Catalog

def accessibility : List Rule := [
  { id := "wcag-001"
    name := "Provide Text Alternatives for Non-Text Content"
    category := "Accessibility (WCAG 2.1)"
    severity := .error
    description := "All images, icons, and non-text content must have descriptive alt text."
    rationale := "Screen readers rely on alt text to describe images to visually impaired users."
    impact :=
      "Missing alt text makes content inaccessible to blind users and fails WCAG Level A " ++
      "compliance."
    source := "WCAG 2.1 Success Criterion 1.1.1"
    sourceUrl := "https://www.w3.org/WAI/WCAG21/Understanding/non-text-content"
    goodExamples := [
      "<img src=\"logo.png\" alt=\"Company Logo\">",
      "<button aria-label=\"Close dialog\">×</button>"]
    badExamples := ["<img src=\"photo.jpg\">", "<img src=\"icon.png\" alt=\"\">"] },
  { id := "wcag-002"
    name := "Ensure Sufficient Color Contrast"
    category := "Accessibility (WCAG 2.1)"
    severity := .error
    description :=
      "Text must have a contrast ratio of at least 4.5:1 for normal text and 3:1 for large text."
    rationale :=
      "Low contrast makes text difficult to read for users with visual impairments or in bright " ++
      "light."
    impact := "Insufficient contrast fails WCAG AA compliance and excludes users with low vision."
    source := "WCAG 2.1 Success Criterion 1.4.3"
    sourceUrl := "https://www.w3.org/WAI/WCAG21/Understanding/contrast-minimum"
    goodExamples := ["Black text on white background (21:1)", "Dark gray #595959 on white (7:1)"]
    badExamples := ["Light gray #aaa on white (2.3:1)", "Yellow text on white background"] },
  { id := "wcag-003"
    name := "Make All Functionality Keyboard Accessible"
    category := "Accessibility (WCAG 2.1)"
    severity := .error
    description :=
      "All interactive elements must be accessible via keyboard (Tab, Enter, Space, Arrows)."
    rationale :=
      "Many users cannot use a mouse due to motor disabilities and rely solely on keyboard " ++
      "navigation."
    impact :=
      "Keyboard-inaccessible interfaces exclude users with motor disabilities and power users."
    source := "WCAG 2.1 Success Criterion 2.1.1"
    sourceUrl := "https://www.w3.org/WAI/WCAG21/Understanding/keyboard"
    goodExamples := [
      "<button>, <a>, <input> elements", "tabindex=\"0\" for custom widgets",
      "Focus indicators visible"]
    badExamples := [
      "<div onclick=\"...\"> without keyboard handler", "tabindex=\"-1\" on interactive elements"] },
  { id := "wcag-004"
    name := "Use Semantic HTML Elements"
    category := "Accessibility (WCAG 2.1)"
    severity := .warning
    description :=
      "Use proper HTML5 semantic elements (<nav>, <main>, <article>, <header>, <footer>, etc.)."
    rationale :=
      "Semantic HTML provides structure that assistive technologies use to navigate content."
    impact :=
      "Generic <div> soup makes it difficult for screen reader users to understand page structure."
    source := "WCAG 2.1 Success Criterion 1.3.1"
    sourceUrl := "https://www.w3.org/WAI/WCAG21/Understanding/info-and-relationships"
    goodExamples := [
      "<nav>, <main>, <article>, <aside>", "<h1>-<h6> hierarchy", "<button> for actions"]
    badExamples := ["<div class=\"header\">", "<span class=\"button\">", "Skipping heading levels"] },
  { id := "wcag-005"
    name := "Provide Clear Focus Indicators"
    category := "Accessibility (WCAG 2.1)"
    severity := .warning
    description :=
      "Interactive elements must have visible focus indicators when navigated via keyboard."
    rationale := "Users need to see which element currently has keyboard focus."
    impact := "Invisible focus makes keyboard navigation impossible for sighted keyboard users."
    source := "WCAG 2.1 Success Criterion 2.4.7"
    sourceUrl := "https://www.w3.org/WAI/WCAG21/Understanding/focus-visible"
    goodExamples := [
      ":focus \x7b outline: 2px solid blue; \x7d", "Custom focus ring with box-shadow"]
    badExamples := [
      ":focus \x7b outline: none; \x7d without alternative", "Removing default focus styles"] },
  { id := "wcag-006"
    name := "Use ARIA Labels and Roles Appropriately"
    category := "Accessibility (WCAG 2.1)"
    severity := .warning
    description :=
      "Use ARIA attributes to enhance accessibility of custom widgets and dynamic content."
    rationale :=
      "ARIA provides semantic information for custom components that HTML alone cannot convey."
    impact := "Missing ARIA makes custom widgets unusable with assistive technologies."
    source := "WCAG 2.1 Success Criterion 4.1.2"
    sourceUrl := "https://www.w3.org/WAI/WCAG21/Understanding/name-role-value"
    goodExamples := [
      "role=\"dialog\"", "aria-label=\"Menu\"", "aria-expanded=\"true\"", "aria-live=\"polite\""]
    badExamples := [
      "Overusing ARIA on semantic HTML", "Incorrect role assignments", "Missing required ARIA"] }]

def assisting : List Rule := [
  { id := "a11y-001"
    name := "Use Descriptive Link Text"
    category := "Accessibility (A11Y Project)"
    severity := .warning
    description := "Link text must describe the destination when read out of context."
    rationale :=
      "Screen reader users often navigate by a list of links stripped of surrounding text."
    impact := "A list of \"click here\" links is meaningless to assistive technology users."
    source := "The A11Y Project Checklist"
    sourceUrl := "https://www.a11yproject.com/checklist/"
    goodExamples := ["<a href=\"/pricing\">View pricing plans</a>"]
    badExamples := ["<a href=\"/pricing\">Click here</a>", "<a href=\"/blog/post\">Read more</a>"] },
  { id := "a11y-002"
    name := "Label Every Form Input"
    category := "Accessibility (A11Y Project)"
    severity := .error
    description := "Every form control needs a programmatically associated <label>."
    rationale :=
      "Labels tell assistive technologies what a field is for and enlarge the click target."
    impact := "Unlabelled inputs cannot be identified by screen reader users."
    source := "The A11Y Project Checklist"
    sourceUrl := "https://www.a11yproject.com/checklist/#forms"
    goodExamples := ["<label for=\"email\">Email</label><input id=\"email\" type=\"email\">"]
    badExamples := ["<input type=\"text\" placeholder=\"Email\">"] },
  { id := "a11y-003"
    name := "Provide a Skip Link"
    category := "Accessibility (A11Y Project)"
    severity := .warning
    description := "Offer a link at the top of the page that jumps to the main content."
    rationale := "Keyboard users should not have to tab through the whole navigation on every page."
    impact := "Without a skip link keyboard users repeat dozens of tab presses per page."
    source := "The A11Y Project Checklist"
    sourceUrl := "https://www.a11yproject.com/posts/skip-nav-links/"
    goodExamples := ["<a href=\"#main\" class=\"skip-link\">Skip to main content</a>"]
    badExamples := ["No skip link", "Skip link pointing to a missing id"] },
  { id := "webaim-001"
    name := "Provide Transcripts for Audio and Video"
    category := "Accessibility (WebAIM)"
    severity := .warning
    description := "Audio and video content needs a text transcript."
    rationale := "Deaf and hard-of-hearing users cannot access spoken content otherwise."
    impact := "Media without transcripts excludes deaf users and is invisible to search engines."
    source := "WebAIM Accessibility Principles"
    sourceUrl := "https://webaim.org/techniques/captions/"
    goodExamples := ["<video src=\"talk.mp4\"></video><a href=\"/talk-transcript\">Transcript</a>"]
    badExamples := ["Podcast without transcript", "Video without captions"] },
  { id := "webaim-002"
    name := "Space Links and Buttons Apart"
    category := "Accessibility (WebAIM)"
    severity := .info
    description := "Leave enough spacing between adjacent links and buttons."
    rationale := "Crowded targets lead to accidental activation, especially on touch screens."
    impact := "Users with tremors or large fingers activate the wrong control."
    source := "WebAIM Accessibility Principles"
    sourceUrl := "https://webaim.org/articles/motor/"
    goodExamples := ["a \x7b padding: 8px; \x7d", "margin between inline links"]
    badExamples := ["Adjacent links without spacing"] },
  { id := "webaim-003"
    name := "Support Keyboard-Only Operation"
    category := "Accessibility (WebAIM)"
    severity := .error
    description := "Use native buttons instead of clickable <div> elements."
    rationale := "Native controls are focusable and operable with Enter and Space out of the box."
    impact := "Clickable divs cannot be reached or activated without a mouse."
    source := "WebAIM Keyboard Accessibility"
    sourceUrl := "https://webaim.org/techniques/keyboard/"
    goodExamples := ["<button type=\"button\" onclick=\"openMenu()\">Menu</button>"]
    badExamples := ["<div onclick=\"openMenu()\">Menu</div>"] }]

end PageAudit.Catalog
