import PageAudit.CommandLine.Run
import PageAudit.Proofs.Json.Reading
import PageAudit.Proofs.Site
/-!
A scan on the command line that asks for JSON. Its arguments are read whatever the filter is, and
what it prints is read as the result of the audit.
-/
namespace PageAudit

section
variable {limit : Option Nat}

theorem textPlain (text : Option String) : Json.Plain limit (.string? text) := by
  cases text with
  | none => exact .null
  | some value => exact .string value

theorem textsPlain (items : List String) : Json.Plain limit (.strings items) := by
  refine .list fun item member => ?_
  obtain ⟨text, -, rfl⟩ := List.mem_map.mp member
  exact .string text

end

theorem intPlain (n : Int) : Json.Plain none (.int n) := .number n (by simp [Json.isLong])

theorem countPlain (n : Option Nat) : Json.Plain none (.nat? n) := by
  cases n with
  | none => exact .null
  | some n => exact intPlain n

theorem violationPlain (v : Violation) : Json.Plain none v.toJson := by
  refine .object ?_
  simp only [List.forall_mem_cons, List.not_mem_nil, false_implies, implies_true, and_true,
    Json.Plain.string, textPlain, countPlain, textsPlain]

theorem summaryPlain (s : Summary) : Json.Plain none s.toJson := by
  refine .object ?_
  simp only [List.forall_mem_cons, List.not_mem_nil, false_implies, implies_true, and_true,
    Json.nat, intPlain]

theorem analysisPlain (a : Analysis) : Json.Plain none a.toJson := by
  have violations : Json.Plain none (.list (a.violations.map Violation.toJson)) := by
    refine .list fun item member => ?_
    obtain ⟨v, -, rfl⟩ := List.mem_map.mp member
    exact violationPlain v
  refine .object ?_
  simp only [List.forall_mem_cons, List.not_mem_nil, false_implies, implies_true, and_true,
    Json.Plain.string, violations, intPlain, textsPlain, summaryPlain]

namespace CommandLine

def Finish.printed (f : Finish) : String := String.ofList (['\n'].intercalate f.output)

theorem jsonPrinted (a : Analysis) (w : World) :
    Json.parse none (Finish.wrote (jsonLines a) w).printed = .ok a.toJson := by
  have printed : (Finish.wrote (jsonLines a) w).printed = a.toJson.pretty := by
    rw [Finish.printed, Finish.wrote, jsonLines, Text.linesJoined, String.ofList_toList]
  rw [printed, Json.pretty, Json.parseRead Json.indentedNeat (analysisPlain a)]

theorem programUnread {name : String} (dashless : Text.startsWith name "-" = false)
    (rest : List String) : readProgram (name :: rest) = .ok (.inr (name :: rest)) := by
  have argument : isOption name = false := by simp only [isOption, dashless, Bool.false_and]
  have more : (name == "--") = false := by
    refine beq_eq_false_iff_ne.mpr ?_
    rintro rfl
    exact absurd dashless (by decide)
  simp only [readProgram, readArguments, argument, more]
  rfl

theorem commandFound (c : CommandName) : CommandName.ofText? c.text = some c := by
  cases c <;> decide

theorem withScanNamed (c : CommandName) (args : List String) :
    withScan (c.text :: args) = c.text :: args := by
  have siteless : looksLikeSite c.text = false := by simp [looksLikeSite, commandFound]
  simp only [withScan, siteless, Bool.false_eq_true, if_false]

theorem startNamed (c : CommandName) (args : List String) :
    readStart (withScan (c.text :: args)) = .ok (.command c args) := by
  have dashless : Text.startsWith c.text "-" = false := by cases c <;> decide
  simp only [withScanNamed, readStart, programUnread dashless, commandFound]

theorem runNamed (given : Setting) (c : CommandName) (args : List String) :
    run given (c.text :: args) = runCommand given c args := by
  simp only [run, startNamed]

theorem webNoOption {url : String} (web : NamesWeb url) :
    isOption url = false ∧ (url == "--") = false := by
  have first : url.toList.head? = some 'h' := by
    rcases web with starts | starts
    all_goals
      obtain ⟨rest, whole⟩ := List.isPrefixOf_iff_prefix.mp starts
      rw [← whole]
      rfl
  constructor
  · cases dash : Text.startsWith url "-" with
    | false => simp [isOption, dash]
    | true =>
      obtain ⟨rest, whole⟩ := List.isPrefixOf_iff_prefix.mp dash
      rw [← whole] at first
      cases first
  · rw [beq_eq_false_iff_ne]
    rintro rfl
    cases first

def Setting.auditor (given : Setting) (s : Settings) : Auditor :=
  ⟨given.transport, .ok s, given.now⟩

def sourceForm : OptionForm := CommandName.scan.forms[0]

def jsonForm : OptionForm := CommandName.scan.forms[3]

theorem scanRead {url : String} (web : NamesWeb url) (filter : String) :
    readAction .scan [url, "--source", filter, "--json"] =
      .ok (.scan ⟨url, filter, false, none, true⟩) := by
  obtain ⟨argument, dashes⟩ := webNoOption web
  have source : readOption CommandName.scan.forms "--source" =
      .ok ([], some (sourceForm, "--source")) := by decide
  have json : readOption CommandName.scan.forms "--json" = .ok ([(jsonForm, "")], none) := by
    decide
  have options : isOption "--source" = true ∧ isOption "--json" = true := by decide
  have given : readArguments CommandName.scan.forms true [url, "--source", filter, "--json"] =
      .ok ⟨[(sourceForm, filter), (jsonForm, "")], [url]⟩ := by
    simp [readArguments, argument, dashes, source, json, options, Except.map, Given.after]
  have helpless : (⟨[(sourceForm, filter), (jsonForm, "")], [url]⟩ : Given).has "help" = false :=
    rfl
  have fine : refused? ⟨[(sourceForm, filter), (jsonForm, "")], [url]⟩ = none := rfl
  simp only [readAction, given, helpless, fine]
  rfl

section
variable {given : Setting} {s : Settings} {url : String} {rank : Nat}

theorem runScan (read : Settings.ofEnvironment given.environment = .ok s)
    (level : levelRank s.logLevel = .ok rank) (web : NamesWeb url) (filter : String) :
    run given ["scan", url, "--source", filter, "--json"] =
      audit given s ⟨url, filter, false, none, true⟩ := by
  have settings : readSettings given.environment = .ok s := by simp only [readSettings, read, level]
  have named := runNamed given .scan [url, "--source", filter, "--json"]
  rw [CommandName.text] at named
  rw [named]
  simp only [runCommand, settings, scanRead web filter, act, scan, if_true]

theorem runUnleveled {e : LevelError} (read : Settings.ofEnvironment given.environment = .ok s)
    (level : levelRank s.logLevel = .error e) (c : CommandName) (args : List String) :
    run given (c.text :: args) = .error (.level e) := by
  rw [runNamed]
  simp only [runCommand, readSettings, read, level]

theorem auditPrints {filter : String} {a : Analysis}
    (ended : ((given.auditor s).analyze (some (normalizeUrl url)) (some filter) .start).1 = .ok a) :
    audit given s ⟨url, filter, false, none, true⟩ =
      .ok (.wrote (jsonLines a)
        ((given.auditor s).analyze (some (normalizeUrl url)) (some filter) .start).2) := by
  unfold audit
  dsimp only [withTimeout]
  rw [← Setting.auditor]
  revert ended
  rcases (given.auditor s).analyze (some (normalizeUrl url)) (some filter) .start with ⟨outcome, w⟩
  rintro rfl
  rfl

theorem auditBreaks {filter : String} {fault : Fault}
    (broken : ((given.auditor s).analyze (some (normalizeUrl url)) (some filter) .start).1 =
      .error (.broken fault)) :
    audit given s ⟨url, filter, false, none, true⟩ = .error (.broken fault) := by
  unfold audit
  dsimp only [withTimeout]
  rw [← Setting.auditor]
  revert broken
  rcases (given.auditor s).analyze (some (normalizeUrl url)) (some filter) .start with ⟨outcome, w⟩
  rintro rfl
  rfl

end

end CommandLine

end PageAudit
