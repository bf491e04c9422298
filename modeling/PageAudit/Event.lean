import PageAudit.Json.Printer
import PageAudit.Number.Decimal
import PageAudit.Text.Quoted
import PageAudit.Text.Case
/-!
What an audit tells while it runs: events with a level, and the least level that is told.
-/
namespace PageAudit

inductive Level where
  | info
  | warning
  | error
  deriving DecidableEq, Repr

def Level.name : Level → String
  | .info => "info"
  | .warning => "warning"
  | .error => "error"

def Level.rank : Level → Nat
  | .info => 20
  | .warning => 30
  | .error => 40

inductive Teller where
  | fetcher
  | auditor
  | evaluator
  | service
  deriving DecidableEq, Repr

def Teller.name : Teller → String
  | .fetcher => "web_inspector.fetcher"
  | .auditor => "web_inspector.auditor"
  | .evaluator => "web_inspector.engine"
  | .service => "web_inspector.web"

inductive Event where
  | analysisStarted (site : String) (token : Option String) (rules : Nat)
  | fetchStarted (url : String) (timeout : Number.Double)
  | redirected (url target : String) (status : Nat)
  | redirectRefused (url location cause : String)
  | statusRefused (url : String) (status : Nat)
  | timedOut (url : String) (timeout : Number.Double)
  | connectionFailed (url cause : String)
  | fetchFailed (site cause : String)
  | checkFailed (rule cause : String)
  | analysisFinished (site : String) (score : Int) (passed failed warnings info : Nat)
  | requestFailed (site : Option String)
  deriving DecidableEq, Repr

namespace Event

def name : Event → String
  | analysisStarted .. => "analysis.start"
  | fetchStarted .. => "fetch.start"
  | redirected .. => "fetch.redirect"
  | redirectRefused .. => "fetch.bad_redirect"
  | statusRefused .. => "fetch.http_status"
  | timedOut .. => "fetch.timeout"
  | connectionFailed .. => "fetch.connection_failure"
  | fetchFailed .. => "analysis.fetch_failed"
  | checkFailed .. => "rule.fault"
  | analysisFinished .. => "analysis.finished"
  | requestFailed .. => "api.analyze_failed"

def level : Event → Level
  | analysisStarted .. | fetchStarted .. | redirected .. | analysisFinished .. => .info
  | redirectRefused .. | statusRefused .. | timedOut .. | connectionFailed .. | fetchFailed ..
  | checkFailed .. => .warning
  | requestFailed .. => .error

def teller : Event → Teller
  | analysisStarted .. | fetchFailed .. | analysisFinished .. => .auditor
  | checkFailed .. => .evaluator
  | requestFailed .. => .service
  | fetchStarted .. | redirected .. | redirectRefused .. | statusRefused .. | timedOut ..
  | connectionFailed .. => .fetcher

def double : Number.Double → Json
  | .nan => .number "NaN"
  | .infinite negative => .number (if negative then "-Infinity" else "Infinity")
  | x => .number x.readable

def details : Event → List (String × Json)
  | analysisStarted site token rules =>
    [("site_url", .string site), ("source_filter", .string? token), ("rules", .nat rules)]
  | fetchStarted url timeout => [("url", .string url), ("timeout", double timeout)]
  | redirected url target status =>
    [("url", .string url), ("location", .string target), ("status", .nat status)]
  | redirectRefused url location cause =>
    [("url", .string url), ("location", .string location), ("error", .string cause)]
  | statusRefused url status => [("url", .string url), ("status", .nat status)]
  | timedOut url timeout => [("url", .string url), ("timeout", double timeout)]
  | connectionFailed url cause => [("url", .string url), ("error", .string cause)]
  | fetchFailed site cause => [("site_url", .string site), ("error", .string cause)]
  | checkFailed rule cause => [("rule_id", .string rule), ("error", .string cause)]
  | analysisFinished site score passed failed warnings info =>
    [("site_url", .string site), ("score", .int score), ("passed", .nat passed),
      ("failed", .nat failed), ("warnings", .nat warnings), ("info", .nat info)]
  | requestFailed site => [("site_url", .string? site)]

def record (e : Event) : Json :=
  .object (e.details ++ [("event", .string e.name), ("logger", .string e.teller.name),
    ("level", .string e.level.name)])

end Event

structure LevelError where
  name : String
  deriving DecidableEq, Repr

def LevelError.message (e : LevelError) : String := s!"Unknown level: {Text.quoted e.name}"

def levelRanks : List (String × Nat) := [
  ("CRITICAL", 50), ("FATAL", 50), ("ERROR", 40), ("WARN", 30), ("WARNING", 30), ("INFO", 20),
  ("DEBUG", 10), ("NOTSET", 0)]

def levelRank (name : String) : Except LevelError Nat :=
  let name := Text.uppercase name
  match levelRanks.lookup name with
  | some rank => .ok rank
  | none => .error ⟨name⟩

def told (rank : Nat) (events : List Event) : List Event :=
  events.filter fun e => rank ≤ e.level.rank

end PageAudit
