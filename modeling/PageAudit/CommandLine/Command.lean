import PageAudit.CommandLine.Option
import PageAudit.Number.Decimal
/-!
The commands, what each of them takes, and how a command line is read as one. An address in place of
a command stands for a scan of it.
-/
namespace PageAudit.CommandLine

inductive CommandName where
  | rules
  | scan
  | serve
  | sources
  deriving DecidableEq, Repr

namespace CommandName

def text : CommandName → String
  | rules => "rules"
  | scan => "scan"
  | serve => "serve"
  | sources => "sources"

def all : List CommandName := [rules, scan, serve, sources]

def ofText? (text : String) : Option CommandName := all.find? fun c => c.text == text

end CommandName

def sourceHelp : String := "Rule source id or filter token"

def programForms : List OptionForm := [
  ⟨none, "version", .flag, ["Show the version and exit."]⟩,
  .forHelp]

def CommandName.forms : CommandName → List OptionForm
  | .rules => [⟨some 's', "source", .text, [sourceHelp ++ "  [default: all]"]⟩, .forHelp]
  | .scan => [
    ⟨some 's', "source", .text, [sourceHelp ++ " (e.g. wcag, seo, OWASP)", "[default: all]"]⟩,
    ⟨some 'v', "verbose", .flag, ["Show all violations with details and code snippets"]⟩,
    ⟨some 't', "timeout", .decimal, ["Request timeout in seconds"]⟩,
    ⟨none, "json", .flag, ["Output as JSON"]⟩,
    .forHelp]
  | .serve => [
    ⟨none, "host", .text, ["Interface to bind  [default: 127.0.0.1]"]⟩,
    ⟨none, "port", .integer, ["Port to listen on  [default: 8000]"]⟩,
    .forHelp]
  | .sources => [.forHelp]

def CommandName.argument? : CommandName → Option String
  | .scan => some "URL"
  | _ => none

structure ScanArguments where
  site : String
  source : String
  verbose : Bool
  timeout : Option Number.Double
  asJson : Bool
  deriving DecidableEq, Repr

inductive Action where
  | help
  | scan (a : ScanArguments)
  | rules (source : String)
  | sources
  | serve (host : String) (port : Int)
  deriving DecidableEq, Repr

def accepts : ValueKind → String → Bool
  | .decimal, value => (Number.typedDecimal? value).isSome
  | .integer, value => (Number.typedInteger? value).isSome
  | _, _ => true

def refused? (g : Given) : Option UsageError :=
  g.options.findSome? fun (form, _) =>
    match g.value? form.name with
    | some value => if accepts form.kind value then none else some (.invalidValue form value)
    | none => none

def checkRest (c : CommandName) (rest : List String) : Except UsageError (List String) :=
  match c.argument?, rest with
  | some name, [] => .error (.missingArgument name)
  | some _, [value] => .ok [value]
  | some _, _ :: more => .error (.extraArguments more)
  | none, [] => .ok []
  | none, rest => .error (.extraArguments rest)

def defaultSource : String := "all"

def defaultHost : String := "127.0.0.1"

def defaultPort : Int := 8000

def actionOf (g : Given) (rest : List String) : CommandName → Action
  | .scan => .scan {
      site := rest.headD ""
      source := (g.value? "source").getD defaultSource
      verbose := g.has "verbose"
      timeout := (g.value? "timeout").bind Number.typedDecimal?
      asJson := g.has "json" }
  | .rules => .rules ((g.value? "source").getD defaultSource)
  | .sources => .sources
  | .serve => .serve ((g.value? "host").getD defaultHost)
      (((g.value? "port").bind Number.typedInteger?).getD defaultPort)

/-- Reads the arguments of a command. The help is shown before values are looked at. -/
def readAction (c : CommandName) (args : List String) : Except UsageError Action :=
  match readArguments c.forms true args with
  | .error e => .error e
  | .ok g =>
    if g.has "help" then .ok .help
    else
      match refused? g with
      | some e => .error e
      | none => (checkRest c g.rest).map fun rest => actionOf g rest c

inductive Start where
  | help
  | version
  | overview
  | command (c : CommandName) (args : List String)
  deriving DecidableEq, Repr

def readProgram (args : List String) : Except UsageError (Start ⊕ List String) :=
  match readArguments programForms false args with
  | .error e => .error e
  | .ok g =>
    match g.options with
    | [] => .ok (.inr g.rest)
    | (form, _) :: _ => .ok (.inl (if form.name == "version" then .version else .help))

/-- Reads a command line. A name that is no command may still be an option behind `--`. -/
def readStart (args : List String) : Except UsageError Start :=
  match readProgram args with
  | .error e => .error e
  | .ok (.inl start) => .ok start
  | .ok (.inr []) => .ok .overview
  | .ok (.inr (name :: rest)) =>
    match CommandName.ofText? name with
    | some c => .ok (.command c rest)
    | none =>
      match readProgram (name :: rest) with
      | .error e => .error e
      | .ok (.inl start) => .ok start
      | .ok (.inr _) =>
        .error (.noCommand name (Text.closest name (CommandName.all.map CommandName.text)))

def looksLikeSite (arg : String) : Bool :=
  !Text.startsWith arg "-" && (CommandName.ofText? arg).isNone &&
    (Text.mentions arg "." || Text.startsWith arg "localhost")

def withScan : List String → List String
  | [] => []
  | arg :: rest =>
    if looksLikeSite arg then CommandName.scan.text :: arg :: rest else arg :: rest

end PageAudit.CommandLine
