import PageAudit.CommandLine.Command
/-!
The texts that explain the command line: the help of the program and of its commands, and what is
said about a mistake.
-/
namespace PageAudit.CommandLine

def programName : String := "web-inspector"

def calledAs : Option CommandName → String
  | some c => s!"{programName} {c.text}"
  | none => programName

def usageLine (c : Option CommandName) : String :=
  let arguments := match c with
    | some c => match c.argument? with
      | some name => " " ++ name
      | none => ""
    | none => " [COMMAND] [ARGS]..."
  s!"Usage: {calledAs c} [OPTIONS]{arguments}"

def CommandName.summary : CommandName → String
  | .rules => "List catalog rules selected by a filter token."
  | .scan => "Analyze a URL against the rule catalog."
  | .serve => "Run the HTTP API (POST /api/analyze, GET /api/sources)."
  | .sources => "List the rule sources usable with --source."

def about : Option CommandName → List String
  | none => [
    "Web Inspector - check a web page against best-practice rules.",
    "",
    "Quick start:",
    "    web-inspector scan example.com",
    "    web-inspector scan example.com --source wcag",
    "",
    "Commands:",
    "    scan     Analyze a URL",
    "    sources  List rule sources",
    "    rules    List catalog rules",
    "    serve    Run the HTTP API"]
  | some .scan => [
    CommandName.scan.summary,
    "",
    "Examples:",
    "    web-inspector scan example.com",
    "    web-inspector scan example.com --source security --verbose",
    "    web-inspector scan example.com --json"]
  | some c => [c.summary]

def formsOf : Option CommandName → List OptionForm
  | some c => c.forms
  | none => programForms

def indented (n : Nat) (line : String) : String :=
  if line.isEmpty then line else String.ofList (List.replicate n ' ') ++ line

def OptionForm.shown (f : OptionForm) : String :=
  joined ", " f.spellings ++ f.kind.placeholder

def helpRows (rows : List (String × List String)) : List String :=
  let width := rows.foldl (fun w (name, _) => max w name.length) 0
  rows.flatMap fun (name, lines) =>
    let name := indented 2 name ++ String.ofList (List.replicate (width - name.length) ' ')
    match lines with
    | [] => [name]
    | first :: more => (name ++ "  " ++ first) :: more.map (indented (width + 4))

def helpLines (c : Option CommandName) : List String :=
  let commands := match c with
    | some _ => []
    | none => ["", "Commands:"] ++ helpRows (CommandName.all.map fun c => (c.text, [c.summary]))
  [usageLine c, ""] ++ (about c).map (indented 2) ++ ["", "Options:"] ++
    helpRows ((formsOf c).map fun f => (f.shown, f.help)) ++ commands

def mistakeLines (c : Option CommandName) (e : UsageError) : List String := [
  usageLine c,
  s!"Try '{calledAs c} --help' for help.",
  "",
  s!"Error: {e.message}"]

end PageAudit.CommandLine
