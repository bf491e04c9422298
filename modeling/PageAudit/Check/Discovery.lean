import PageAudit.Check.Basic
/-!
Checks on how a page is found by search engines.
-/
namespace PageAudit.Check

open Pattern Verdict

def headStart : Pattern := opens "head"

def groupText (m : Option Pattern.Match) : List Char :=
  match m with
  | some m => Text.trim m.group
  | none => []

def titleElement : Pattern :=
  of [letters "<title>", group [oneOrMore (except ['<'])], letters "</title>"]

def title (s : Subject) : Verdict :=
  let element := s.find? titleElement
  let text := groupText element
  let passed := 10 ≤ text.length && text.length ≤ 60
  located passed
    (if text.isEmpty then "Missing or empty page title."
     else s!"Title \"{String.ofList text}\" ({text.length} chars). Optimal: 50-60 chars.")
    "Add a unique, descriptive title between 50-60 characters to every page."
    (if passed then none
     else if element.isSome then excerpt s.markup (word "<title>") 1
     else excerpt s.markup headStart 3)

def contentField : Piece :=
  row [letters "content=", quote, group [oneOrMore (except ['"', '\''])], quote]

def descriptionElement : Pattern :=
  of [letters "<meta", someInTag, valued "name" "description", someInTag, contentField]

def descriptionMeta : Pattern := tagValued "meta" "name" "description"

def metaDescription (s : Subject) : Verdict :=
  let element := s.find? descriptionElement
  let text := groupText element
  let passed := 120 ≤ text.length && text.length ≤ 160
  located passed
    (if text.isEmpty then "Missing meta description."
    else
      s!"Description: \"{String.ofList (text.take 100)}...\" ({text.length} chars). " ++
        "Optimal: 150-160 chars.")
    "Add a unique meta description of 150-160 characters to every page."
    (if passed then none
     else if element.isSome then excerpt s.markup descriptionMeta 1
     else excerpt s.markup headStart 3)

def headingHierarchy (s : Subject) : Verdict :=
  let h1 := s.count (tag "h1")
  let h2 := s.count (tag "h2")
  let h3 := s.count (tag "h3")
  let skips := 0 < h3 && h2 == 0
  located (h1 == 1 && !skips)
    (s!"Headings: {h1} <h1>, {h2} <h2>, {h3} <h3>." ++
      (if skips then " Skips heading levels!" else ""))
    ("Use exactly one <h1> per page. " ++
      "Maintain logical hierarchy: h1→h2→h3, never skip levels.")
    (if h1 != 1 then excerpt s.markup (opens "h1") 2 else s.excerptIf skips (opens "h3") 2)

def jsonLdScript : Pattern :=
  of [letters "<script", someInTag, valued "type" "application/ld+json", inTag, verbatim ">"]

def structuredData (s : Subject) : Verdict :=
  let linked := s.has jsonLdScript
  let microdata := s.has (words ["itemscope", "itemprop"])
  let passed := linked || microdata
  located passed
    s!"Structured data: JSON-LD({truth linked}), Microdata({truth microdata})"
    "Implement Schema.org structured data with JSON-LD for rich search results."
    (s.excerptIf (!passed) headStart 6)

def sitemap (s : Subject) : Verdict :=
  let there := s.has (word "sitemap")
  located there
    (if there then "Sitemap referenced in page."
     else "No sitemap reference found. Check /sitemap.xml manually.")
    "Create an XML sitemap at /sitemap.xml and reference it in robots.txt."
    (s.excerptIf (!there) (words ["<footer", "<body"]) 4)

def canonical (s : Subject) : Verdict :=
  let there := s.has (tagValued "link" "rel" "canonical")
  located there
    (if there then "Canonical URL link is present." else "Missing canonical URL.")
    "Add <link rel=\"canonical\" href=\"...\"> to prevent duplicate content issues."
    (s.excerptIf (!there) headStart 5)

def urlStructure (s : Subject) : Except CheckError Verdict := do
  let address ← s.address
  let path := if address.path.isEmpty then ['/'] else address.path
  let underscores := path.contains '_'
  let capitals := path.any Char.isUpper
  return plain (!underscores && !capitals && path.length < 100)
    (s!"URL: {String.ofList path}. Underscores: {truth underscores}, " ++
      s!"CamelCase: {truth capitals}, Length: {path.length}")
    ("Use hyphens (kebab-case) in URLs. Keep URLs under 100 characters. " ++
      "Avoid underscores and camelCase.")

def jsonLd (s : Subject) : Verdict :=
  let there := s.has jsonLdScript
  located there
    (if there then "Found JSON-LD structured data."
     else "No structured data (JSON-LD) found.")
    ("Add Schema.org structured data using JSON-LD format " ++
      "for better search engine understanding.")
    (s.excerptIf (!there) headStart 6)

def jsonLdBlock : Pattern :=
  of [letters "<script", someInTag, valued "type" "application/ld+json", inTag, verbatim ">",
    fewest anyChar, letters "</script>"]

def specificType : Pattern :=
  of [anyVerbatim ["Article", "Product", "Recipe", "Event", "Organization", "Person", "Review",
    "FAQ", "JobPosting", "Course"]]

def schemaTypes (s : Subject) : Verdict :=
  let blocks := s.findAll jsonLdBlock
  let specific := blocks.any specificType.occursIn
  located specific
    (if specific then "Found specific Schema.org types (Article, Product, etc.)."
     else "No specific Schema.org types found. Avoid generic types like Thing.")
    "Use specific Schema.org types: Article, Product, Recipe, Event, Organization, etc."
    (s.excerptIf (!specific && !blocks.isEmpty) (word "application/ld+json") 3)

end PageAudit.Check
