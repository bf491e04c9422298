import PageAudit.Rule.Basic
/-!
Rules of the catalog: loading speed and stability, and pages that install as applications.
-/
namespace PageAudit.Catalog

def loading : List Rule := [
  { id := "cwv-001"
    name := "Optimize Largest Contentful Paint (LCP)"
    category := "Performance (Core Web Vitals)"
    severity := .error
    description := "Largest Contentful Paint should occur within 2.5 seconds of page load."
    rationale :=
      "LCP measures loading performance and directly impacts user experience and SEO rankings."
    impact := "Slow LCP leads to high bounce rates and poor Google search rankings."
    source := "Google Core Web Vitals - LCP"
    sourceUrl := "https://web.dev/lcp/"
    goodExamples := [
      "Optimize images with WebP/AVIF", "Preload critical resources", "Use CDN",
      "Lazy load below-fold"]
    badExamples := ["Large unoptimized images", "Render-blocking resources", "Slow server response"] },
  { id := "cwv-002"
    name := "Minimize Cumulative Layout Shift (CLS)"
    category := "Performance (Core Web Vitals)"
    severity := .error
    description := "Cumulative Layout Shift should be less than 0.1 to avoid visual instability."
    rationale := "Layout shifts frustrate users and cause accidental clicks on wrong elements."
    impact := "High CLS damages user experience, accessibility, and SEO rankings."
    source := "Google Core Web Vitals - CLS"
    sourceUrl := "https://web.dev/cls/"
    goodExamples := [
      "Reserve space for images (width/height)", "Fixed dimensions for ads",
      "Transform instead of layout properties"]
    badExamples := [
      "Images without dimensions", "Inserting content above existing", "Dynamically sized ads"] },
  { id := "cwv-003"
    name := "Optimize First Input Delay (FID) / Interaction to Next Paint (INP)"
    category := "Performance (Core Web Vitals)"
    severity := .warning
    description := "First Input Delay should be less than 100ms; INP should be less than 200ms."
    rationale :=
      "Users expect immediate response to interactions. Delays feel sluggish and unresponsive."
    impact := "Slow interactivity frustrates users and damages conversion rates."
    source := "Google Core Web Vitals - FID/INP"
    sourceUrl := "https://web.dev/fid/"
    goodExamples := [
      "Code splitting", "Break up long tasks", "Use web workers", "Optimize JavaScript execution"]
    badExamples := [
      "Heavy JavaScript on main thread", "Blocking the main thread", "Synchronous operations"] },
  { id := "perf-001"
    name := "Lazy Load Offscreen Resources"
    category := "Performance (Core Web Vitals)"
    severity := .warning
    description := "Defer loading of below-the-fold images and non-critical scripts."
    rationale :=
      "Loading only what is visible shortens the critical path and speeds up first render."
    impact :=
      "Eagerly loading every resource wastes bandwidth and delays the largest contentful paint."
    source := "Google Web.dev - Lazy Loading"
    sourceUrl := "https://web.dev/browser-level-image-lazy-loading/"
    goodExamples := [
      "<img src=\"photo.jpg\" loading=\"lazy\" alt=\"...\">", "<script defer src=\"app.js\">"]
    badExamples := ["All images loaded eagerly", "Synchronous scripts in <head>"] },
  { id := "perf-002"
    name := "Serve Images in Modern Formats"
    category := "Performance (Core Web Vitals)"
    severity := .warning
    description := "Use WebP or AVIF images with lazy loading for offscreen images."
    rationale := "Modern formats compress 25-50% better than JPEG and PNG at equal quality."
    impact := "Legacy image formats inflate page weight and slow down loading on mobile networks."
    source := "Google Web.dev - Image Optimization"
    sourceUrl := "https://web.dev/uses-webp-images/"
    goodExamples := [
      "<picture><source type=\"image/webp\" srcset=\"photo.webp\"><img src=\"photo.jpg\" loading=\"lazy\" alt=\"...\"></picture>"]
    badExamples := ["Large PNG photographs", "No lazy loading for offscreen images"] },
  { id := "perf-003"
    name := "Eliminate Render-Blocking Resources"
    category := "Performance (Core Web Vitals)"
    severity := .warning
    description := "Scripts and stylesheets in <head> should not block the first paint."
    rationale :=
      "The browser cannot render until blocking scripts and stylesheets are downloaded and parsed."
    impact := "Render-blocking resources delay First Contentful Paint and Largest Contentful Paint."
    source := "Google Lighthouse - Render-Blocking Resources"
    sourceUrl :=
      "https://developer.chrome.com/docs/lighthouse/performance/render-blocking-resources/"
    goodExamples := [
      "<script defer src=\"app.js\">",
      "<link rel=\"stylesheet\" href=\"print.css\" media=\"print\">"]
    badExamples := ["<script src=\"app.js\"> in <head>", "Large synchronous stylesheets"] }]

def installing : List Rule := [
  { id := "pwa-001"
    name := "Provide a Web App Manifest"
    category := "Progressive Web Apps"
    severity := .info
    description := "Link a web app manifest with <link rel=\"manifest\">."
    rationale := "The manifest makes a site installable and controls its launch appearance."
    impact := "Without a manifest the site cannot be installed as an app."
    source := "Google PWA Checklist"
    sourceUrl := "https://web.dev/pwa-checklist/"
    goodExamples := ["<link rel=\"manifest\" href=\"/manifest.json\">"]
    badExamples := ["No manifest"] },
  { id := "pwa-002"
    name := "Register a Service Worker"
    category := "Progressive Web Apps"
    severity := .info
    description := "Register a service worker for offline support and caching."
    rationale := "Service workers enable offline use, background sync and fast repeat visits."
    impact := "Without a service worker the site fails completely when offline."
    source := "Google PWA Checklist"
    sourceUrl := "https://web.dev/service-workers-cache-storage/"
    goodExamples := ["navigator.serviceWorker.register(\"/sw.js\");"]
    badExamples := ["No service worker"] },
  { id := "pwa-003"
    name := "Serve the App over HTTPS"
    category := "Progressive Web Apps"
    severity := .error
    description := "Progressive web apps must be served over HTTPS."
    rationale := "Service workers and many modern APIs are only available in secure contexts."
    impact := "Over HTTP the app cannot register a service worker or be installed."
    source := "Google PWA Checklist"
    sourceUrl := "https://web.dev/pwa-checklist/"
    goodExamples := ["https://app.example.com"]
    badExamples := ["http://app.example.com"] },
  { id := "pwa-004"
    name := "Provide an Offline Fallback"
    category := "Progressive Web Apps"
    severity := .info
    description := "Serve an offline page when the network is unavailable."
    rationale := "A custom offline page keeps users oriented instead of showing a browser error."
    impact := "Users see the browser's generic offline error."
    source := "Google PWA Checklist"
    sourceUrl := "https://web.dev/offline-fallback-page/"
    goodExamples := ["Service worker serving /offline.html"]
    badExamples := ["No offline handling"] }]

end PageAudit.Catalog
