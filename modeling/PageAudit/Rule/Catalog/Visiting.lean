import PageAudit.Rule.Basic
/-!
Rules of the catalog: small screens, use and content, and design systems.
-/
namespace PageAudit.Catalog

def visiting : List Rule := [
  { id := "mobile-001"
    name := "Optimize for Touch Interactions"
    category := "Mobile Optimization"
    severity := .warning
    description := "Touch targets should be at least 48x48 CSS pixels with sufficient spacing."
    rationale :=
      "Small touch targets are difficult to tap accurately, especially for users with motor " ++
      "impairments."
    impact := "Small targets cause mis-taps, frustration, and accessibility failures."
    source := "Google Web.dev"
    sourceUrl := "https://web.dev/accessible-tap-targets/"
    goodExamples := ["Buttons min 48x48px", "8px spacing between targets", "Large hit areas"]
    badExamples := ["Tiny buttons (<40px)", "Links too close together", "Small touch areas"] },
  { id := "mobile-002"
    name := "Avoid Intrusive Interstitials"
    category := "Mobile Optimization"
    severity := .warning
    description := "Don't show intrusive popups or interstitials on mobile that cover main content."
    rationale := "Intrusive interstitials frustrate mobile users and are penalized by Google."
    impact := "Intrusive popups hurt mobile rankings and increase bounce rates."
    source := "Google Search Central"
    sourceUrl :=
      "https://developers.google.com/search/blog/2016/08/helping-users-easily-access-content-on"
    goodExamples := [
      "Banner notifications", "Dismissible overlays", "Age verification when legally required"]
    badExamples := [
      "Full-screen app install prompts", "Newsletter popups on page load", "Ads covering content"] },
  { id := "mobile-003"
    name := "Optimize for Mobile Networks"
    category := "Mobile Optimization"
    severity := .warning
    description :=
      "Total page size should be under 2MB; aim for under 1MB for optimal mobile experience."
    rationale := "Mobile users often have slower connections and limited data plans."
    impact := "Large pages cost users money, take long to load, and increase bounce rates."
    source := "Google Web.dev"
    sourceUrl := "https://web.dev/total-byte-weight/"
    goodExamples := ["Compressed assets", "Lazy loading", "Adaptive serving", "Efficient formats"]
    badExamples := ["Unoptimized images", "Large videos auto-playing", "Excessive resources"] },
  { id := "ux-001"
    name := "Provide Clear Navigation"
    category := "User Experience"
    severity := .warning
    description := "Include clear, consistent navigation that helps users find content."
    rationale := "Good navigation reduces bounce rates and improves user satisfaction."
    impact := "Poor navigation frustrates users and reduces conversions."
    source := "Nielsen Norman Group"
    sourceUrl := "https://www.nngroup.com/articles/navigation-is-the-foundation/"
    goodExamples := [
      "Consistent menu location", "Breadcrumbs", "Search functionality", "Clear labels"]
    badExamples := ["Hidden navigation", "Inconsistent menus", "No search", "Vague labels"] },
  { id := "ux-002"
    name := "Optimize Form Usability"
    category := "User Experience"
    severity := .warning
    description :=
      "Forms should have clear labels, appropriate input types, validation, and error messages."
    rationale := "Well-designed forms increase completion rates and reduce user frustration."
    impact := "Poor forms have high abandonment rates and reduce conversions."
    source := "Baymard Institute"
    sourceUrl := "https://baymard.com/blog/checkout-usability"
    goodExamples := [
      "<label> for each input", "type=\"email\"", "Inline validation", "Clear error messages"]
    badExamples := ["No labels", "Generic type=\"text\"", "Unclear errors", "CAPTCHA on every form"] },
  { id := "ux-003"
    name := "Include Loading Indicators"
    category := "User Experience"
    severity := .info
    description := "Show loading states for async operations to provide feedback to users."
    rationale := "Users need feedback that the system is working to avoid confusion."
    impact := "No loading indicators make users think the site is broken."
    source := "Material Design Guidelines"
    sourceUrl := "https://material.io/design/communication/loading-indicators.html"
    goodExamples := [
      "Spinners for loading", "Progress bars", "Skeleton screens",
      "Disabled buttons during submit"]
    badExamples := ["No feedback", "Button clickable multiple times", "Silent failures"] },
  { id := "content-001"
    name := "Write Clear, Readable Content"
    category := "Content Quality"
    severity := .info
    description := "Content should be written at 8th-grade reading level with clear language."
    rationale := "Clear content is more accessible, engaging, and easier to understand."
    impact := "Complex language excludes users and reduces engagement."
    source := "Nielsen Norman Group"
    sourceUrl := "https://www.nngroup.com/articles/writing-for-lower-literacy-users/"
    goodExamples := ["Short sentences", "Simple words", "Clear headings", "Bullet points"]
    badExamples := ["Jargon", "Long paragraphs", "Complex sentences", "Walls of text"] },
  { id := "content-002"
    name := "Provide Contact Information"
    category := "Content Quality"
    severity := .info
    description := "Include clear contact information and methods to reach support."
    rationale := "Users need ways to get help or ask questions to build trust."
    impact := "No contact info reduces trust and credibility."
    source := "E-A-T Guidelines (Google)"
    sourceUrl := "https://developers.google.com/search/docs/fundamentals/creating-helpful-content"
    goodExamples := [
      "Email address", "Contact form", "Phone number", "Physical address", "Support hours"]
    badExamples := ["No contact info", "Only social media", "Generic form with no response"] }]

def designing : List Rule := [
  { id := "carbon-001"
    name := "Use a Consistent Spacing Scale"
    category := "Design System (IBM Carbon)"
    severity := .info
    description := "Use spacing values from an 8px based scale."
    rationale := "A spacing scale creates visual rhythm and consistent layouts."
    impact := "Arbitrary spacing makes layouts look uneven."
    source := "IBM Carbon Design System"
    sourceUrl := "https://carbondesignsystem.com/elements/spacing/overview/"
    goodExamples := ["padding: 16px;", "margin: 24px;"]
    badExamples := ["padding: 13px;", "margin: 27px;"] },
  { id := "carbon-002"
    name := "Apply Accessible Color Tokens"
    category := "Design System (IBM Carbon)"
    severity := .info
    description := "Choose text and background colors from contrast-checked tokens."
    rationale := "Tokens with verified contrast keep text readable across themes."
    impact := "Ad hoc colors drift below required contrast ratios."
    source := "IBM Carbon Design System"
    sourceUrl := "https://carbondesignsystem.com/guidelines/color/overview/"
    goodExamples := ["color: var(--cds-text-primary);"]
    badExamples := ["Hard-coded light gray text"] },
  { id := "material-001"
    name := "Use a Consistent Elevation System"
    category := "Design System (Material)"
    severity := .info
    description := "Express depth with a consistent set of shadows."
    rationale := "Elevation communicates hierarchy and focus between surfaces."
    impact := "Flat or inconsistent surfaces make hierarchy hard to read."
    source := "Material Design Guidelines"
    sourceUrl := "https://m3.material.io/styles/elevation/overview"
    goodExamples := ["box-shadow: 0 1px 2px rgba(0, 0, 0, 0.3);"]
    badExamples := ["Random shadow values on every component"] },
  { id := "material-002"
    name := "Give Touch Feedback on Buttons"
    category := "Design System (Material)"
    severity := .info
    description := "Show a ripple or similar state layer when a button is pressed."
    rationale := "Immediate visual feedback confirms that a tap registered."
    impact := "Users tap repeatedly when nothing acknowledges their input."
    source := "Material Design Guidelines"
    sourceUrl := "https://m3.material.io/foundations/interaction/states/state-layers"
    goodExamples := ["Ripple effect on press"]
    badExamples := ["Buttons without pressed state"] }]

end PageAudit.Catalog
