import PageAudit.Analysis
import PageAudit.Evaluation
import PageAudit.Fetch.Basic
import PageAudit.Rule.Catalog
import PageAudit.Text.Case
import PageAudit.Text.Kind
import PageAudit.Text.Quoted
import PageAudit.Url
/-!
The audit of a site: its address is accepted, the rules are selected, the page is fetched, judged and
scored. A page that cannot be fetched has a result too.
-/
namespace PageAudit

inductive SiteError where
  | missing
  | address (cause : Url.UrlError)
  | scheme (site : String)
  | host (site : String)
  deriving DecidableEq, Repr

def SiteError.message : SiteError → String
  | .missing => "siteUrl is required"
  | .address cause => s!"Invalid siteUrl: {cause.message}"
  | .scheme site =>
    s!"Invalid siteUrl: scheme must be http or https, got {Text.quoted site}"
  | .host site => s!"Invalid siteUrl: missing host in {Text.quoted site}"

def normalizeUrl (url : String) : String :=
  let url := Text.trimmed url
  if Text.startsWith url "http://" || Text.startsWith url "https://" then url
  else "https://" ++ url

def validateSite (site : Option String) : Except SiteError String :=
  let site := Text.trimmed (site.getD "")
  if site.isEmpty then .error .missing
  else
    match Url.parts site with
    | .error e => .error (.address e)
    | .ok parts =>
      if parts.scheme != "http".toList && parts.scheme != "https".toList then .error (.scheme site)
      else if parts.host?.isNone then .error (.host site)
      else .ok site

inductive AuditError where
  | site (e : SiteError)
  | settings (e : SettingsError)
  | broken (fault : Fault)
  deriving DecidableEq, Repr

structure Auditor where
  transport : Transport
  settings : Except SettingsError Settings
  now : String

namespace Auditor

def faultEvents (outcomes : List Outcome) : List Event :=
  outcomes.filterMap fun o => o.fault.map fun e => .checkFailed e.ruleId e.message

def finished (site : String) (a : Analysis) : Event :=
  .analysisFinished site a.score a.summary.passed a.summary.failed a.summary.warnings a.summary.info

def judge (auditor : Auditor) (site : String) (rules : List Rule) (page : Page) (w : World) :
    Analysis × World :=
  let outcomes := evaluate checks rules (page.subject site)
  let result := Analysis.ofJudged site auditor.now (rules.zip (outcomes.map Outcome.verdict))
  (result, { w with events := w.events ++ faultEvents outcomes ++ [finished site result] })

def giveUp (auditor : Auditor) (site : String) (rules : List Rule) (e : FetchError) (w : World) :
    Analysis × World :=
  (Analysis.unreachable site auditor.now rules.length e.message,
    w.tell (.fetchFailed site e.message))

def analyze (auditor : Auditor) (site : Option String) (token : Option String) (w : World) :
    Except AuditError Analysis × World :=
  match validateSite site with
  | .error e => (.error (.site e), w)
  | .ok site =>
    let rules := select token catalog
    let w := w.tell (.analysisStarted site token rules.length)
    match auditor.settings with
    | .error e => (.error (.settings e), w)
    | .ok settings =>
      match fetch auditor.transport settings site w with
      | (.error (.broken fault), w) => (.error (.broken fault), w)
      | (.error (.failed e), w) =>
        let (result, w) := auditor.giveUp site rules e w
        (.ok result, w)
      | (.ok page, w) =>
        let (result, w) := auditor.judge site rules page w
        (.ok result, w)

end Auditor

end PageAudit
