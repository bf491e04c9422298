import PageAudit.Check.Basic
import PageAudit.Number.Binary
import PageAudit.Url
/-!
Checks on how a page and what it refers to are loaded, on the size of both, and on its use by touch.
-/
namespace PageAudit.Check

open Pattern Verdict Number

def lazyLoading (s : Subject) : Except CheckError Verdict := do
  let images := s.count imgTag
  let waiting := s.count (of [letters "<img", inTag, valued "loading" "lazy"])
  let deferred := s.count (of [letters "<script", inTag, letters "defer"])
  let asynchronous := s.count (of [letters "<script", inTag, letters "async"])
  let imagesPass ← shareAbove (images < 5) (1 / 2) waiting images
  return plain (imagesPass && 0 < deferred + asynchronous)
    (s!"{waiting}/{images} images lazy-loaded, {deferred} deferred scripts, " ++
      s!"{asynchronous} async scripts")
    ("Use loading=\"lazy\" for below-fold images. " ++
      "Add defer/async to scripts to improve LCP.")

def sizeField : Piece := anyOf ["width=", "height="]

def sizedImg : Pattern := of [letters "<img", someInTag, sizeField, inTag, verbatim ">"]

def unsizedImg : Pattern :=
  of [letters "<img", absent [someInTag, sizeField], inTag, verbatim ">"]

def layoutShift (s : Subject) : Except CheckError Verdict := do
  let total := s.count imgTag
  let sized := s.count sizedImg
  let unsized := s.findAll unsizedImg
  let passed ← shareAbove (total == 0) (nearest (4 / 5)) sized total
  let evidence ← s.excerptOfFirst (!unsized.isEmpty) unsized 1
  return located passed
    s!"{sized}/{total} images have width/height attributes ({percent sized total}%)"
    "Add width and height attributes to all images to prevent layout shifts (CLS)."
    evidence

def blockingScript : Pattern :=
  of [letters "<script", absent [inTag, wordEdge, anyOf ["defer", "async"], wordEdge], inTag,
    letters "src=", quote, oneOrMore (except ['"', '\'']), quote, inTag, verbatim ">"]

def blockingStylesheet : Pattern :=
  of [letters "<link", someInTag, valued "rel" "stylesheet",
    absent [inTag, wordEdge, valued "media" "print"], inTag, verbatim ">"]

def renderBlocking (s : Subject) : Except CheckError Verdict := do
  let scripts := s.findAll blockingScript
  let stylesheets := s.findAll blockingStylesheet
  let evidence ← if scripts.isEmpty then
      pure (s.excerptIf (!stylesheets.isEmpty) stylesheetLink 2)
    else s.excerptOfFirst true scripts 2
  return located (scripts.isEmpty && stylesheets.isEmpty)
    (s!"Found {scripts.length} render-blocking scripts and " ++
      s!"{stylesheets.length} render-blocking stylesheets.")
    ("Add defer or async attributes to <script> tags. Use media=\"print\" " ++
      "or load CSS asynchronously for non-critical styles.")
    evidence

def lazyField : Pattern := of [valued "loading" "lazy"]

def imageOptimization (s : Subject) : Verdict :=
  let images := s.findAll imgTag
  let webp := s.has (tagValued "source" "type" "image/webp")
  let avif := s.has (tagValued "source" "type" "image/avif")
  let waits := images.any lazyField.occursIn
  let passed := (webp || avif) && waits
  located passed
    (s!"Images: {images.length}, WebP: {yesNo webp}, AVIF: {yesNo avif}, " ++
      s!"Lazy Loading: {yesNo waits}")
    ("Use <picture> with WebP/AVIF formats. " ++
      "Add loading=\"lazy\" to below-fold images.")
    (s.excerptIf (!images.isEmpty && !passed) imgTag 2)

def listenerFor (event : String) : Pattern :=
  of [letters "addEventListener", blanks, verbatim "(", blanks, quote, letters event]

def passiveOption : Pattern :=
  of [verbatim "\x7b", blanks, letters "passive", blanks, verbatim ":", blanks, letters "true",
    blanks, verbatim "\x7d"]

def passiveListeners (s : Subject) : Verdict :=
  let touch := s.has (listenerFor "touch")
  let wheel := s.has (listenerFor "wheel")
  let passive := s.has passiveOption
  plain (!(touch || wheel) || passive)
    s!"Touch events: {truth touch}, Wheel events: {truth wheel}, Passive: {truth passive}"
    ("Mark touch and wheel event listeners as passive: " ++
      "addEventListener(\"touchstart\", handler, \x7b passive: true \x7d);")

def scriptSource : Pattern :=
  of [letters "<script", someInTag, letters "src=", quote,
    group [oneOrMore (except ['"', '\''])], quote]

def nonBlockingMark : Pattern := of [anyVerbatim ["async", "defer"]]

def isLocal (source : List Char) : Bool :=
  ['/'].isPrefixOf source || ['.', '/'].isPrefixOf source

def isForeign (site : String) (host : Option String) (source : List Char) :
    Except Url.UrlError Bool := do
  if isLocal source then return false
  let target ← Url.resolve site (String.ofList source)
  let parts ← Url.parts target
  return parts.host? != host

def foreignScripts (s : Subject) (host : Option String) :
    Except Url.UrlError (List Pattern.Match) :=
  (scriptSource.matches? s.markup).filterM fun m => isForeign s.site host m.group

/-- Scripts of other hosts mostly do not hold the page back. Those that do not are counted over
every script with a source. -/
def thirdPartyScripts (s : Subject) : Except CheckError Verdict := do
  let address ← s.address
  match foreignScripts s address.host? with
  | .error e => throw (.address e)
  | .ok foreign =>
    let free := ((s.findAll scriptSource).filter nonBlockingMark.occursIn).length
    let passed ← shareAbove foreign.isEmpty (nearest (4 / 5)) free foreign.length
    let evidence ← s.excerptOfFirst (!passed) (foreign.map Match.text) 1
    return located passed
      (s!"{foreign.length} third-party scripts, {free} loaded async/defer " ++
        s!"({percent free foreign.length}%)")
      "Load third-party scripts asynchronously. Consider self-hosting critical dependencies."
      evidence

def maxMarkup : Nat := 500000

def resourceWeight : Nat := 50000

def resourceField : Pattern :=
  of [oneOf [[verbatim "<", anyOf ["script", "link", "img"], inTag, letters "src="],
    [letters "href="]]]

def payloadSize (s : Subject) : Verdict :=
  let size := s.markup.length
  let resources := s.count resourceField
  plain (size < maxMarkup)
    (s!"HTML size: {kilo size}KB, External resources: {resources}. " ++
      s!"Estimated total: ~{kilo (size + resources * resourceWeight)}KB")
    ("Keep total network payload under 1.6MB. " ++
      "Minify, compress, and optimize all assets.")

def preloadedFont : Pattern :=
  of [letters "<link", someInTag, valued "rel" "preload", someInTag, valued "as" "font"]

def requestCount (s : Subject) : Verdict :=
  let images := s.count imgTag
  let scripts := s.count sourcedScript
  let styles := s.count stylesheetLink
  let fonts := s.count preloadedFont
  let total := images + scripts + styles + fonts
  plain (total < 50)
    (s!"Total HTTP requests: {total} (images: {images}, scripts: {scripts}, " ++
      s!"styles: {styles}, fonts: {fonts})")
    ("Reduce HTTP requests: bundle JS/CSS, sprite images, " ++
      "inline critical resources. Target <50 requests.")

def mobilePayload (s : Subject) : Verdict :=
  let size := s.markup.length
  plain (size < maxMarkup)
    (s!"HTML size: {kilo size}KB, {s.count imgTag} images, " ++
      s!"{s.count sourcedScript} external scripts")
    ("Optimize for mobile: compress images, minify code, lazy load resources. " ++
      "Keep total page under 2MB.")

def fontSize : Pattern :=
  of [letters "font-size:", blanks, group [oneOrMore Char.isDigit], letters "px"]

def tinyFontSize : Pattern :=
  of [letters "font-size:", blanks,
    oneOf [[char Char.isDigit], [verbatim "1", char fun c => '0' ≤ c && c ≤ '3']], letters "px"]

def touchTargets (s : Subject) : Except CheckError Verdict := do
  let sizes ← (fontSize.matches? s.markup).mapM fun m => readNumber m.group
  let tiny := sizes.countP (· < 14)
  return located (tiny < 5)
    (if tiny == 0 then "Touch target sizes appear adequate."
    else
      s!"Found {tiny} elements with very small font sizes (<14px) " ++
        "which may indicate small touch targets.")
    "Ensure all interactive elements are at least 48x48 CSS pixels with 8px spacing."
    (s.excerptIf (5 ≤ tiny) tinyFontSize 2)

def interstitials (s : Subject) : Verdict :=
  let popup := s.has (words ["modal", "popup", "overlay", "interstitial"])
  let hidden := s.has (of [letters "display:", blanks, letters "none"])
  plain (!popup || hidden)
    (if popup then "Potential modal/popup detected. Ensure it's not intrusive on mobile."
     else "No obvious intrusive interstitials detected.")
    "Avoid full-screen popups on mobile. Use dismissible banners instead."

end PageAudit.Check
