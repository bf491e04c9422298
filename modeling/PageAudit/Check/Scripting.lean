import PageAudit.Check.Basic
import PageAudit.Number.Binary
/-!
Checks on scripts as such: how many there are, and what is left in them.
-/
namespace PageAudit.Check

open Pattern Verdict Number

def scriptEnd : Piece := row [fewest anyChar, letters "</script>"]

def inlineScript : Pattern :=
  of [letters "<script", absent [inTag, letters "src="], inTag, verbatim ">", scriptEnd]

def scriptExecution (s : Subject) : Verdict :=
  let scripts := s.count (tag "script")
  let inside := s.count inlineScript
  let passed := scripts < 15 && inside < 5
  located passed
    s!"Total scripts: {scripts} ({(scripts : Int) - inside} external, {inside} inline)"
    ("Minimize JavaScript: bundle files, remove unused code, " ++
      "use code splitting, lazy load non-critical scripts.")
    (s.excerptIf (!passed) (opens "script") 3)

def tryCatch : Pattern :=
  of [letters "try", blanks, verbatim "\x7b", fewest anyChar, verbatim "\x7d", blanks,
    letters "catch"]

def errorHandler : Pattern :=
  of [oneOf [[letters ".catch("], [letters "onerror"],
    [letters "addEventListener(", quote, letters "error", quote], [letters "window.onerror"]]]

def errorHandling (s : Subject) : Verdict :=
  let blocks := s.has tryCatch
  let handlers := s.has errorHandler
  let passed := blocks || handlers
  located passed
    s!"Error handling: try/catch({truth blocks}), error handlers({truth handlers})"
    "Implement try/catch blocks and global error handlers for graceful error handling."
    (s.excerptIf (!passed) (opens "script") 4)

def declaration : Pattern :=
  of [wordEdge, anyOf ["const", "let", "var"], someBlanks, oneOrMore Text.isWord, blanks,
    verbatim "="]

def scriptBlock : Pattern := of [letters "<script", scriptEnd]

def unusedVariables (s : Subject) : Verdict :=
  let declarations := s.count declaration
  let size := (s.findAll scriptBlock).foldl (fun n block => n + block.length) 0
  plain (size < 10000 || declarations < 50)
    s!"{declarations} variable declarations, {kilo size}KB of JavaScript"
    "Remove unused variables and dead code. Use tree-shaking and code splitting."

def consoleCall : Pattern :=
  of [letters "console.", anyOf ["log", "error", "warn", "info", "debug"], verbatim "("]

def consoleStatements (s : Subject) : Verdict :=
  let there := s.has consoleCall
  located (!there)
    (if there then
      "Found console statements in JavaScript code. Should be removed for production."
    else "No console statements detected in inline scripts.")
    ("Remove all console.log, console.error, and similar statements from " ++
      "production code. Use proper logging libraries instead.")
    (s.excerptIf there consoleCall 2)

def debuggerCall : Pattern := of [wordEdge, letters "debugger", blanks, verbatim ";"]

def debuggerStatements (s : Subject) : Verdict :=
  let there := s.has debuggerCall
  located (!there)
    (if there then "Found debugger statements in JavaScript code."
     else "No debugger statements found.")
    "Remove all debugger; statements from production code."
    (s.excerptIf there debuggerCall 2)

def repeats {α : Type} [BEq α] : List α → Bool
  | [] => false
  | a :: rest => rest.contains a || repeats rest

def objectLiteral : Pattern :=
  of [verbatim "\x7b", zeroOrMore (except ['\x7b', '\x7d']), verbatim "\x7d"]

def objectKey : Pattern := of [oneOrMore Text.isWord, blanks, verbatim ":"]

def duplicateKeys (s : Subject) : Verdict :=
  let twice := (s.findAll objectLiteral).any fun literal => repeats (objectKey.findAll literal)
  plain (!twice)
    (if twice then "Potential duplicate keys detected in object literals."
     else "No duplicate object keys detected.")
    "Ensure object literals have unique keys. Duplicates cause bugs."

end PageAudit.Check
