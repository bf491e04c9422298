import PageAudit.Check.Basic
/-!
Checks on the style of scripts. Scripts are looked at as raw text inside the page.
-/
namespace PageAudit.Check

open Pattern Verdict

def used (b : Bool) : String := if b then "Used" else "Not used"

def declaring (keyword : String) : Pattern := of [wordEdge, letters keyword, someBlanks]

def constLet (s : Subject) : Verdict :=
  let usesVar := s.has (declaring "var")
  let usesConst := s.has (declaring "const")
  let usesLet := s.has (declaring "let")
  located (!usesVar && (usesConst || usesLet))
    (s!"JavaScript declarations: var({truth usesVar}), const({truth usesConst}), " ++
      s!"let({truth usesLet})")
    "Use const for non-reassigned variables, let for reassignable ones. Never use var."
    (s.excerptIf usesVar (declaring "var") 2)

def arrow : Pattern :=
  of [oneOf [[verbatim "=>", blanks, verbatim "\x7b"],
    [verbatim "=>", blanks, char (except ['\x7b'])]]]

def unnamedFunction : Pattern := of [letters "function", blanks, verbatim "("]

def arrowFunctions (s : Subject) : Verdict :=
  let arrows := s.has arrow
  let unnamed := s.has unnamedFunction
  let passed := arrows || !unnamed
  let shown := if arrows then "Used" else "Not found"
  located passed
    s!"Arrow functions: {shown}, function keyword: {used unnamed}"
    "Prefer arrow functions for callbacks and anonymous functions."
    (s.excerptIf (!passed) unnamedFunction 2)

def isBacktick (c : Char) : Bool := c.toNat == 96

def template : Pattern :=
  of [char isBacktick, zeroOrMore (!isBacktick ·), verbatim "$\x7b", oneOrMore (except ['\x7d']),
    verbatim "\x7d", zeroOrMore (!isBacktick ·), char isBacktick]

def quotedText : Piece := row [quote, zeroOrMore (except ['"', '\'']), quote]

def concatenation : Pattern := of [quotedText, blanks, verbatim "+", blanks, quotedText]

def templateLiterals (s : Subject) : Verdict :=
  let templates := s.has template
  let joined := s.has concatenation
  plain (templates || !joined)
    s!"Template literals: {used templates}, String concatenation: {used joined}"
    "Use template literals (`Hello $\x7bname\x7d`) instead of string concatenation."

def destructuringPattern : Pattern :=
  let braces : Piece :=
    row [blanks, verbatim "\x7b", oneOrMore (except ['\x7d']), verbatim "\x7d", blanks, verbatim "="]
  of [oneOf [[letters "const", braces], [letters "let", braces]]]

def repeatedAccess : Pattern :=
  let member : Piece := row [verbatim ".", oneOrMore Text.isWord]
  of [group [oneOrMore Text.isWord], member, zeroOrMore (except ['=']), repeated, member]

def destructuring (s : Subject) : Verdict :=
  let apart := s.has destructuringPattern
  let again := s.has repeatedAccess
  let shown := if apart then "Used" else "Not detected"
  plain (apart || !again)
    s!"Destructuring: {shown}, Repetitive access: {foundNone again}"
    ("Use object destructuring: const \x7b name, age \x7d = user; " ++
      "instead of user.name, user.age repeatedly.")

def defaultParameter : Pattern :=
  let parameters : Piece :=
    row [verbatim "(", zeroOrMore (except [')']), verbatim "=", zeroOrMore (except [')']),
      verbatim ")"]
  of [oneOf [
    [letters "function", someBlanks, oneOrMore Text.isWord, blanks, parameters],
    [verbatim "=", blanks, parameters, blanks, verbatim "=>"]]]

def defaultParameters (s : Subject) : Verdict :=
  let defaults := s.has defaultParameter
  let fallback := s.has (of [verbatim "||"])
  let shown := if defaults then "Used" else "Not found"
  plain (defaults || !fallback)
    s!"Default parameters: {shown}, Fallback pattern (||): {used fallback}"
    ("Use default parameter syntax: function test(val = 1) \x7b \x7d " ++
      "instead of val = val || 1;")

def wholeScript : Pattern := of [letters "<script", inTag, verbatim ">", fewest anyChar, letters "</script>"]

def sourceField : Pattern := tagHolding "script" "src="

def semicolons (s : Subject) : Verdict :=
  let inside := (s.findAll wholeScript).filter fun block => !sourceField.occursIn block
  plain (inside.isEmpty || inside.any fun block => block.contains ';')
    (if inside.isEmpty then "No inline scripts found to check."
     else s!"Found {inside.length} inline scripts. Ensure semicolons are used.")
    "Always use semicolons to terminate JavaScript statements."

def docComment : Pattern :=
  of [verbatim "/**", fewest anyChar, verbatim "@", anyOf ["param", "return", "type"],
    fewest anyChar, verbatim "*/"]

def namedFunction : Piece :=
  row [letters "function", someBlanks, oneOrMore Text.isWord, blanks, verbatim "("]

def anyFunction : Pattern :=
  of [oneOf [[namedFunction],
    [letters "const", someBlanks, oneOrMore Text.isWord, blanks, verbatim "=", blanks,
      verbatim "(", zeroOrMore (except [')']), verbatim ")", blanks, verbatim "=>"]]]

def jsdoc (s : Subject) : Verdict :=
  let documented := s.has docComment
  let functions := s.has anyFunction
  let passed := documented || !functions
  let shown := if documented then "Found" else "Not found"
  located passed
    s!"JSDoc: {shown}, Functions: {foundNone functions}"
    "Document functions with JSDoc comments: /** @param \x7btype\x7d name @return \x7btype\x7d */"
    (s.excerptIf (!passed) (of [namedFunction]) 2)

def looseComparison : Pattern :=
  of [oneOf [[char (except ['=', '!']), verbatim "==", char (except ['='])],
    [char (except ['!']), verbatim "!=", char (except ['='])]]]

def strictEquality (s : Subject) : Verdict :=
  let loose := s.has looseComparison
  let strict := s.has (of [anyVerbatim ["===", "!=="]])
  let passed := !loose || strict
  located passed
    s!"Loose equality (==, !=): {foundNone loose}, Strict (===, !==): {foundNone strict}"
    "Always use === and !== for comparisons to avoid type coercion bugs."
    (s.excerptIf (!passed) looseComparison 2)

def varAssignment : Pattern :=
  of [wordEdge, letters "var", someBlanks, oneOrMore Text.isWord, blanks, verbatim "="]

def globalVariables (s : Subject) : Verdict :=
  let there := s.has varAssignment
  located (!there)
    (if there then
      "Found var declarations which create global variables. Use const/let instead."
    else "No global var declarations detected.")
    ("Avoid var. Use const for constants and let for variables. " ++
      "Use modules or IIFEs to avoid global pollution.")
    (s.excerptIf there varAssignment 2)

end PageAudit.Check
