import PageAudit.Check.Discovery
import PageAudit.Number.Binary
/-!
Checks on a visit to the page: finding one's way, reading, installing, the look of it, and how it is
shown where it is shared.
-/
namespace PageAudit.Check

open Pattern Verdict Number

def navElement : Pattern := of [letters "<nav", fewest anyChar, letters "</nav>"]

def navigation (s : Subject) : Verdict :=
  let there := s.has (tag "nav")
  let links := match there, s.find? navElement with
    | true, some nav => anchorTag.count nav.text
    | _, _ => 0
  let passed := there && 3 ≤ links
  located passed
    (if there then s!"Navigation found with {links} links." else "No <nav> element found.")
    ("Include clear, consistent navigation with <nav> element " ++
      "containing main site links.")
    (if passed then none
     else if there then excerpt s.markup (opens "nav") 3
     else excerpt s.markup (opens "body") 5)

def formUsability (s : Subject) : Verdict :=
  let forms := s.count (tag "form")
  let labels := s.count (tag "label")
  let inputs := s.count (tag "input")
  let placeholders := s.has (word "placeholder=")
  let passed := forms == 0 || (0 < labels && placeholders)
  located passed
    s!"{forms} forms, {inputs} inputs, {labels} labels, Placeholders: {truth placeholders}"
    ("Use clear labels, appropriate input types, placeholders, " ++
      "and validation for all forms.")
    (s.excerptIf (!passed) (opens "form") 3)

def loadingIndicators (s : Subject) : Verdict :=
  let there := s.has (words ["spinner", "loading", "loader"])
  plain there
    (if there then "Loading indicators found in HTML/CSS."
     else "No loading indicators detected.")
    ("Provide visual feedback during async operations with spinners, " ++
      "progress bars, or skeleton screens.")

def anyTag : Pattern := of [verbatim "<", someInTag, verbatim ">"]

def tokens (text : List Char) : Nat := (of [someBlanks]).count text + 1

def readability (s : Subject) : Except CheckError Verdict := do
  let length := (Text.trim (anyTag.remove s.markup)).length
  let average ← quotient length (tokens s.markup)
  return plain (average < 6 && 100 < length)
    s!"Content length: {length} chars, Average word length: {roundHalfUp average} chars"
    ("Write clear, concise content at 8th-grade reading level. " ++
      "Use short sentences and simple words.")

def contactInfo (s : Subject) : Verdict :=
  let email := s.has (words ["mailto:", "@"])
  let phone := s.has (words ["tel:", "phone", "telefon"])
  let contact := s.has (words ["contact", "kontakt", "impressum"])
  plain ((email || phone) && contact)
    s!"Email: {truth email}, Phone: {truth phone}, Contact page: {truth contact}"
    "Provide clear contact information: email, phone, and/or contact form."

def manifest (s : Subject) : Verdict :=
  let there := s.has (tagValued "link" "rel" "manifest")
  located there
    (if there then "Web app manifest link found." else "No web app manifest detected.")
    "Add <link rel=\"manifest\" href=\"/manifest.json\"> for PWA installability."
    (s.excerptIf (!there) headStart 5)

def serviceWorker (s : Subject) : Verdict :=
  let there := s.has (word "navigator.serviceWorker.register")
  located there
    (if there then "Service worker registration found in JavaScript."
     else "No service worker registration detected.")
    "Register a service worker for offline support and caching."
    (s.excerptIf (!there) (opens "script") 3)

def offlineFallback (s : Subject) : Verdict :=
  let worker := s.has (word "navigator.serviceWorker")
  let offline := s.has (words ["offline.html", "offline-fallback"])
  plain (offline || worker)
    s!"Service worker: {truth worker}, Offline page: {truth offline}"
    ("Create offline.html fallback page served by service worker " ++
      "when network is unavailable.")

def spacingDeclaration : Pattern :=
  of [oneOf [[letters "padding"],
    [letters "margin:", blanks, oneOrMore Text.isDigit, letters "px"]]]

def numberIn : Pattern := of [oneOrMore Text.isDigit]

def pixels (declared : List Char) : Except CheckError Nat :=
  match numberIn.find? declared with
  | some m => readNumber m.text
  | none => .ok 0

def spacingScale (s : Subject) : Except CheckError Verdict := do
  let sizes ← (s.findAll spacingDeclaration).mapM pixels
  let irregular := sizes.countP fun size => size % 8 != 0 && 8 < size
  return plain (irregular < scaled sizes.length (3 / 10))
    s!"{sizes.length} spacing declarations, {irregular} not on 8px scale"
    "Use consistent spacing scale: 8px, 16px, 24px, 32px, etc. (8px base unit)."

def contrastTokens (s : Subject) : Verdict :=
  let there := s.has (words ["contrast", "color-contrast"])
  plain there
    ("Contrast considerations in CSS: " ++ if there then "Found" else "Not evident")
    ("Follow Carbon Design System color contrast guidelines. " ++
      "Ensure 4.5:1 ratio for text.")

def detected (b : Bool) : String := if b then "Detected" else "Not detected"

def elevation (s : Subject) : Verdict :=
  let shadows := s.count (word "box-shadow:")
  let levels := s.has (words ["elevation", "shadow-"])
  plain (0 < shadows || levels)
    (s!"{shadows} box-shadow declarations found. " ++
      s!"Elevation system: {detected levels}")
    ("Use consistent elevation system: Cards at elevation 1 (0-2px shadow), " ++
      "Dialogs at elevation 24.")

def rippleFeedback (s : Subject) : Verdict :=
  let ripple := s.has (words ["ripple", "wave", "touch-feedback"])
  let buttons := s.has (tag "button")
  plain (!buttons || ripple)
    s!"Buttons: {foundNone buttons}, Ripple effects: {detected ripple}"
    ("Add ripple/wave effects to buttons for touch feedback " ++
      "(Material Design pattern).")

def openGraph (s : Subject) : Verdict :=
  let present := ["title", "description", "image", "url"].map fun name =>
    (name, s.has (tagValued "meta" "property" ("og:" ++ name)))
  let found := (present.filter Prod.snd).length
  located (3 ≤ found)
    ("Open Graph tags: " ++
      ", ".intercalate (present.map fun (name, there) => s!"{name}({truth there})"))
    ("Add all 4 essential Open Graph meta tags: " ++
      "og:title, og:description, og:image, og:url.")
    (s.excerptIf (found < 3) headStart 5)

def graphImage : Pattern :=
  of [letters "<meta", someInTag, valued "property" "og:image", someInTag, contentField]

def graphImageSize : Pattern :=
  of [letters "<meta", someInTag, letters "property=", quote, letters "og:image:",
    anyOf ["width", "height"], quote]

def ogImageDimensions (s : Subject) : Verdict :=
  let image := (s.find? graphImage).map Pattern.Match.group
  let sized := s.has graphImageSize
  plain (sized || image.isNone)
    (match image with
      | some address =>
        s!"OG image: {String.ofList (address.take 50)}... Dimensions specified: {truth sized}"
      | none => "No OG image found.")
    "Use 1200x630px images for og:image. Specify og:image:width and og:image:height."

def twitterCard (s : Subject) : Verdict :=
  let field (name : String) := s.has (tagValued "meta" "name" ("twitter:" ++ name))
  let card := field "card"
  let hasTitle := field "title"
  let described := field "description"
  let passed := card && hasTitle
  located passed
    (s!"Twitter Card: {yesNo card}, Title: {yesNo hasTitle}, " ++
      s!"Description: {yesNo described}")
    "Add Twitter Card meta tags for better tweet previews."
    (s.excerptIf (!passed) headStart 5)

end PageAudit.Check
