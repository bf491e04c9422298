import PageAudit.Audit
import PageAudit.CommandLine.Help
import PageAudit.Json.Printer
import PageAudit.Report.Basic
import PageAudit.Rule.Source
/-!
What the commands do. A run ends with an exit code and the lines it wrote, or it breaks off.
-/
namespace PageAudit.CommandLine

structure Setting where
  transport : Transport
  environment : Environment
  now : String

inductive Crash where
  | settings (e : SettingsError)
  | level (e : LevelError)
  | broken (fault : Fault)
  | report (e : ReportError)
  deriving DecidableEq, Repr

structure Listening where
  host : String
  port : Int
  deriving DecidableEq, Repr

structure Finish where
  exitCode : Nat
  output : List (List Char)
  mistake : List String
  listening : Option Listening
  world : World
  deriving DecidableEq, Repr

namespace Finish

def wrote (lines : List (List Char)) (w : World) : Finish := ⟨0, lines, [], none, w⟩

def told (lines : List String) : Finish := wrote (lines.map String.toList) .start

def mistaken (c : Option CommandName) (e : UsageError) : Finish :=
  ⟨2, [], mistakeLines c e, none, .start⟩

end Finish

open Terminal

def written (text : String) : Except Crash (List (List Char)) :=
  match marked text with
  | .ok lines => .ok lines
  | .error e => .error (.report (.markup e))

def sourceTable : List (List Char) :=
  table [⟨"Id", false⟩, ⟨"Name", false⟩, ⟨"Organization", false⟩, ⟨"Rules", true⟩]
    (RuleSource.all.map fun s =>
      [s.id, s.name, s.organization, toString (s.select catalog).length])

def ruleTable (rules : List Rule) : List (List Char) :=
  table [⟨"Id", false⟩, ⟨"Severity", false⟩, ⟨"Name", false⟩, ⟨"Category", false⟩]
    (rules.map fun r => [r.id, r.severity.name, r.name, r.category])

def categoryCount (rules : List Rule) : Nat :=
  ((rules.map Rule.category).foldl Analysis.tally []).length

def listRules (token : String) : Except Crash (List (List Char)) :=
  match select (some token) catalog with
  | [] => written s!"[yellow]No rules match {Text.quoted token}[/yellow]"
  | rules =>
    (written s!"[dim]{rules.length} rules in {categoryCount rules} categories[/dim]").map
      (ruleTable rules ++ ·)

def jsonLines (a : Analysis) : List (List Char) := Text.lines a.toJson.pretty.toList

def progressText (site : String) : String := s!"[bold blue]Scanning {site}...[/bold blue]"

def withTimeout (s : Settings) : Option Number.Double → Settings
  | some timeout => { s with timeout := timeout }
  | none => s

def scanLines (a : ScanArguments) (result : Analysis) : Except Crash (List (List Char)) :=
  if a.asJson then .ok (jsonLines result)
  else
    match Report.lines a.verbose result with
    | .ok lines => .ok lines
    | .error e => .error (.report e)

def audit (given : Setting) (settings : Settings) (a : ScanArguments) : Except Crash Finish :=
  let auditor : Auditor := ⟨given.transport, .ok (withTimeout settings a.timeout), given.now⟩
  match auditor.analyze (some (normalizeUrl a.site)) (some a.source) .start with
  | (.error (.site e), w) =>
    (written s!"\n[red]Error:[/red] {e.message}").map fun lines => ⟨1, lines, [], none, w⟩
  | (.error (.settings e), _) => .error (.settings e)
  | (.error (.broken fault), _) => .error (.broken fault)
  | (.ok result, w) => (scanLines a result).map fun lines => .wrote lines w

def scan (given : Setting) (settings : Settings) (a : ScanArguments) : Except Crash Finish :=
  if a.asJson then audit given settings a
  else
    match written (progressText (normalizeUrl a.site)) with
    | .error e => .error e
    | .ok _ => audit given settings a

def readSettings (env : Environment) : Except Crash Settings :=
  match Settings.ofEnvironment env with
  | .error e => .error (.settings e)
  | .ok settings =>
    match levelRank settings.logLevel with
    | .error e => .error (.level e)
    | .ok _ => .ok settings

def act (given : Setting) (settings : Settings) (c : CommandName) : Action → Except Crash Finish
  | .help => .ok (.told (helpLines (some c)))
  | .scan a => scan given settings a
  | .rules token => (listRules token).map fun lines => .wrote lines .start
  | .sources => .ok (.wrote sourceTable .start)
  | .serve host port => .ok ⟨0, [], [], some ⟨host, port⟩, .start⟩

def runCommand (given : Setting) (c : CommandName) (args : List String) : Except Crash Finish :=
  match readSettings given.environment with
  | .error e => .error e
  | .ok settings =>
    match readAction c args with
    | .error e => .ok (.mistaken (some c) e)
    | .ok action => act given settings c action

def versionLine : String := s!"{programName}, version {version}"

def run (given : Setting) (args : List String) : Except Crash Finish :=
  match readStart (withScan args) with
  | .error e => .ok (.mistaken none e)
  | .ok .help => .ok (.told (helpLines none))
  | .ok .version => .ok (.told [versionLine])
  | .ok .overview => (readSettings given.environment).map fun _ => .told (helpLines none)
  | .ok (.command c args) => runCommand given c args

end PageAudit.CommandLine
