import PageAudit.Analysis
import PageAudit.Report.Style
import PageAudit.Terminal.Line
import PageAudit.Text.Kind
/-!
The report on an analysis: a list of sections, and the lines of each. A brief report shows what is
worse than information and says how much it leaves out.
-/
namespace PageAudit

inductive ReportError where
  | markup (e : Terminal.MarkupError)
  | score (e : BarError)
  deriving DecidableEq, Repr

def version : String := "0.1.0"

inductive Section where
  | header (name url stamp : String)
  | score (value : Int) (summary : Summary)
  | counts (summary : Summary)
  | issuesTitle
  | issue (v : Violation) (verbose : Bool)
  | hidden (count : Nat)
  | adviceTitle
  | advice (number : Nat) (line : String)
  | footer
  deriving DecidableEq, Repr

namespace Report

open Terminal

def isPressing (v : Violation) : Bool := v.severity == .error || v.severity == .warning

def shownViolations (verbose : Bool) (violations : List Violation) : List Violation :=
  if verbose then violations else violations.filter isPressing

def hiddenNote (count : Nat) : List Section := if count = 0 then [] else [.hidden count]

def issues (verbose : Bool) (violations : List Violation) : List Section :=
  let shown := shownViolations verbose violations
  if shown.isEmpty then []
  else .issuesTitle :: shown.map (Section.issue · verbose) ++
    hiddenNote (violations.length - shown.length)

def adviceFrom : (number : Nat) → List String → List Section
  | _, [] => []
  | number, line :: rest => .advice number line :: adviceFrom (number + 1) rest

def advice (lines : List String) : List Section :=
  if lines.isEmpty then [] else .adviceTitle :: adviceFrom 1 lines

def sections (verbose : Bool) (a : Analysis) : List Section :=
  [.header a.siteName a.siteUrl a.analyzedAt, .score a.score a.summary, .counts a.summary] ++
    issues verbose a.violations ++ advice a.recommendations ++ [.footer]

def headerLines (name url stamp : String) : Written :=
  stack [blank, panel "🔍 Web Inspector" s!"[bold]{name}[/bold]\n[dim]{url} • {stamp}[/dim]"]

def scoreLines (score : Int) (s : Summary) : Except BarError (List (List Char)) :=
  match ScoreBar.ofScore score s.passed s.total ScoreBar.reportWidth with
  | .ok bar => .ok [[], "  Score: ".toList ++ bar.text, []]
  | .error e => .error e

def countLines (s : Summary) : List (List Char) :=
  table [⟨"Rules", false⟩, ⟨"Count", true⟩] [
    ["Checked", toString s.total],
    ["Passed", toString s.passed],
    ["Errors", toString s.failed],
    ["Warnings", toString s.warnings],
    ["Info", toString s.info]]

def sourceLines (v : Violation) : Written :=
  match v.source?.filter (!·.isEmpty) with
  | some source => marked s!"    [dim]Source: {source}[/dim]"
  | none => .ok []

def excerptLines (v : Violation) : Written :=
  match v.evidence.filter (!·.snippet.isEmpty) with
  | some e => stack [
      marked s!"    [dim]Line {e.line}:[/dim]",
      .ok ((Text.allLines e.snippet.toList).flatMap fun line => plain ("      " ++ String.ofList line))]
  | none => .ok []

def issueLines (v : Violation) (verbose : Bool) : Written :=
  let color := v.severity.color.name
  stack [
    marked s!"  [{color}]{v.severity.icon}[/] [bold]{v.ruleName}[/bold] [dim]({v.id})[/dim]",
    .ok (plain ("    " ++ v.details)),
    if verbose then stack [sourceLines v, excerptLines v] else .ok [],
    marked s!"    [cyan]→[/cyan] {v.recommendation}"]

def footerLines : Written :=
  .ok [[], bar 50, s!"web-inspector v{version}".toList, []]

end Report

namespace Section

open Terminal Report

def ofMarked : Written → Except ReportError (List (List Char))
  | .ok lines => .ok lines
  | .error e => .error (.markup e)

def lines : Section → Except ReportError (List (List Char))
  | header name url stamp => ofMarked (headerLines name url stamp)
  | score value summary =>
    match scoreLines value summary with
    | .ok lines => .ok lines
    | .error e => .error (.score e)
  | counts summary => .ok (countLines summary)
  | issuesTitle => ofMarked (marked "\n[bold]Issues Found:[/bold]\n")
  | issue v verbose => ofMarked (issueLines v verbose)
  | hidden count => ofMarked (marked
      s!"\n  [dim]+ {count} info-level issue(s); use --verbose to show them[/dim]")
  | adviceTitle => ofMarked (marked "\n[bold]🎯 Top Recommendations:[/bold]\n")
  | advice number line => ofMarked (marked s!"  {number}. {line}")
  | footer => ofMarked footerLines

end Section

namespace Report

def linesOf : List Section → Except ReportError (List (List Char))
  | [] => .ok []
  | first :: rest =>
    match first.lines with
    | .error e => .error e
    | .ok lines =>
      match linesOf rest with
      | .error e => .error e
      | .ok more => .ok (lines ++ more)

def lines (verbose : Bool) (a : Analysis) : Except ReportError (List (List Char)) :=
  linesOf (sections verbose a)

end Report

end PageAudit
