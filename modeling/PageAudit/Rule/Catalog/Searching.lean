import PageAudit.Rule.Basic
/-!
Rules of the catalog: what search engines read, previews and machine-readable data.
-/
namespace PageAudit.Catalog

def searching : List Rule := [
  { id := "seo-001"
    name := "Use Unique, Descriptive Page Titles"
    category := "SEO (Search Engine Optimization)"
    severity := .error
    description :=
      "Every page needs a unique <title> of roughly 50-60 characters describing its content."
    rationale := "The title is the primary headline shown in search results and browser tabs."
    impact := "Missing or poor titles reduce click-through rates and search visibility."
    source := "Google Search Central - Title Links"
    sourceUrl := "https://developers.google.com/search/docs/appearance/title-link"
    goodExamples := ["<title>Handmade Leather Wallets | Acme Goods</title>"]
    badExamples := ["<title>Home</title>", "Same title on every page", "Keyword-stuffed titles"] },
  { id := "seo-002"
    name := "Write Compelling Meta Descriptions"
    category := "SEO (Search Engine Optimization)"
    severity := .warning
    description := "Provide a unique meta description of 150-160 characters summarizing the page."
    rationale := "Search engines often use the meta description as the result snippet."
    impact := "Missing descriptions let search engines pick arbitrary page text as the snippet."
    source := "Google Search Central - Snippets"
    sourceUrl := "https://developers.google.com/search/docs/appearance/snippet"
    goodExamples := [
      "<meta name=\"description\" content=\"Browse handmade leather wallets crafted from full-grain leather. Free shipping and a lifetime warranty on every order.\">"]
    badExamples := [
      "No meta description", "Duplicate descriptions across pages",
      "Descriptions under 50 characters"] },
  { id := "seo-003"
    name := "Use Proper Heading Hierarchy"
    category := "SEO (Search Engine Optimization)"
    severity := .warning
    description := "Use exactly one <h1> per page and nest headings without skipping levels."
    rationale :=
      "Headings communicate document structure to search engines and assistive technologies."
    impact := "Broken heading structure confuses crawlers and screen reader users."
    source := "Google Search Central - SEO Starter Guide"
    sourceUrl := "https://developers.google.com/search/docs/fundamentals/seo-starter-guide"
    goodExamples := ["<h1>Page topic</h1><h2>Section</h2><h3>Subsection</h3>"]
    badExamples := [
      "Multiple <h1> elements", "<h1> followed directly by <h3>", "Headings used for styling only"] },
  { id := "seo-004"
    name := "Implement Structured Data"
    category := "SEO (Search Engine Optimization)"
    severity := .info
    description := "Describe page content with Schema.org structured data (JSON-LD or microdata)."
    rationale :=
      "Structured data enables rich results and helps search engines understand entities."
    impact := "Pages without structured data miss rich result features in search."
    source := "Google Search Central - Structured Data"
    sourceUrl :=
      "https://developers.google.com/search/docs/appearance/structured-data/intro-structured-data"
    goodExamples := [
      "<script type=\"application/ld+json\">\x7b\"@context\": \"https://schema.org\", \"@type\": \"Organization\"\x7d</script>"]
    badExamples := ["No structured data", "Markup that does not match visible content"] },
  { id := "seo-005"
    name := "Provide an XML Sitemap"
    category := "SEO (Search Engine Optimization)"
    severity := .info
    description :=
      "Publish an XML sitemap listing all indexable pages and reference it from robots.txt."
    rationale := "Sitemaps help crawlers discover pages that are poorly linked internally."
    impact := "Without a sitemap, new or deep pages may be indexed late or not at all."
    source := "Google Search Central - Sitemaps"
    sourceUrl := "https://developers.google.com/search/docs/crawling-indexing/sitemaps/overview"
    goodExamples := [
      "/sitemap.xml referenced in robots.txt", "<a href=\"/sitemap.xml\">Sitemap</a>"]
    badExamples := ["No sitemap", "Sitemap listing redirected or blocked URLs"] },
  { id := "seo-006"
    name := "Specify Canonical URLs"
    category := "SEO (Search Engine Optimization)"
    severity := .warning
    description := "Declare the preferred URL of each page with <link rel=\"canonical\">."
    rationale := "Canonical URLs consolidate ranking signals for duplicate or near-duplicate pages."
    impact := "Duplicate content splits ranking signals and may cause the wrong URL to be indexed."
    source := "Google Search Central - Canonicalization"
    sourceUrl :=
      "https://developers.google.com/search/docs/crawling-indexing/consolidate-duplicate-urls"
    goodExamples := ["<link rel=\"canonical\" href=\"https://example.com/page\">"]
    badExamples := ["No canonical link", "Canonical pointing to a 404 page"] },
  { id := "seo-007"
    name := "Use Clean, Descriptive URLs"
    category := "SEO (Search Engine Optimization)"
    severity := .info
    description := "Use short, lowercase, hyphen-separated URLs that describe the page."
    rationale := "Readable URLs are easier to share and give users and crawlers context."
    impact := "Cryptic or inconsistent URLs reduce click-through rates and cause duplicate URLs."
    source := "Google Search Central - URL Structure"
    sourceUrl := "https://developers.google.com/search/docs/crawling-indexing/url-structure"
    goodExamples := ["https://example.com/leather-wallets"]
    badExamples := [
      "https://example.com/Leather_Wallets", "https://example.com/index.php?id=123&cat=7"] }]

def sharing : List Rule := [
  { id := "og-001"
    name := "Include Open Graph Tags"
    category := "Social Media (Open Graph)"
    severity := .info
    description := "Provide og:title, og:description, og:image and og:url meta tags."
    rationale := "Open Graph tags control how a page appears when shared on social platforms."
    impact := "Shared links without Open Graph tags show poor or random previews."
    source := "Open Graph Protocol"
    sourceUrl := "https://ogp.me/"
    goodExamples := ["<meta property=\"og:title\" content=\"Page title\">"]
    badExamples := ["No Open Graph tags"] },
  { id := "og-002"
    name := "Specify Open Graph Image Dimensions"
    category := "Social Media (Open Graph)"
    severity := .info
    description := "Declare og:image:width and og:image:height for the share image."
    rationale := "Dimensions let platforms render the preview before downloading the image."
    impact := "Previews render late or with the wrong crop."
    source := "Open Graph Protocol"
    sourceUrl := "https://ogp.me/#structured"
    goodExamples := [
      "<meta property=\"og:image:width\" content=\"1200\">",
      "<meta property=\"og:image:height\" content=\"630\">"]
    badExamples := ["og:image without dimensions"] },
  { id := "og-003"
    name := "Add Twitter Card Tags"
    category := "Social Media (Open Graph)"
    severity := .info
    description := "Provide twitter:card and twitter:title meta tags."
    rationale := "Twitter Cards control how links appear in posts on X."
    impact := "Links shared on X show a bare URL instead of a rich card."
    source := "X (Twitter) Developer Platform - Cards"
    sourceUrl := "https://developer.x.com/en/docs/twitter-for-websites/cards/overview/abouts-cards"
    goodExamples := ["<meta name=\"twitter:card\" content=\"summary_large_image\">"]
    badExamples := ["No Twitter Card tags"] },
  { id := "schema-001"
    name := "Add JSON-LD Structured Data"
    category := "Structured Data (Schema.org)"
    severity := .info
    description := "Embed Schema.org data in a <script type=\"application/ld+json\"> block."
    rationale := "JSON-LD is the structured data format recommended by search engines."
    impact := "Search engines cannot show rich results for the page."
    source := "Schema.org"
    sourceUrl := "https://schema.org/docs/gs.html"
    goodExamples := [
      "<script type=\"application/ld+json\">\x7b\"@type\": \"Organization\"\x7d</script>"]
    badExamples := ["No structured data"] },
  { id := "schema-002"
    name := "Use Specific Schema Types"
    category := "Structured Data (Schema.org)"
    severity := .info
    description := "Use specific types such as Article, Product or Event rather than Thing."
    rationale := "Specific types unlock type-specific rich results."
    impact := "Generic types are ignored for rich results."
    source := "Schema.org"
    sourceUrl := "https://schema.org/docs/full.html"
    goodExamples := ["\"@type\": \"Product\""]
    badExamples := ["\"@type\": \"Thing\""] }]

end PageAudit.Catalog
