import PageAudit.Http.Message
import PageAudit.Number.Binary
import PageAudit.Pattern.Basic
import PageAudit.Text.Kind
import PageAudit.Url
/-!
Checks: from what is looked at to a verdict, or to a fault. Evidence is an excerpt around a match; the
lines of the markup are looked at one by one, so a match that runs over a line end shows nothing.
Patterns that several checks share stand here.
-/
namespace PageAudit

structure Subject where
  markup : List Char
  headers : Http.Headers
  site : String
  deriving DecidableEq, Repr

/-- A place in the markup that supports a verdict: an excerpt and the line of the match, counted
from one. -/
structure Evidence where
  snippet : String
  line : Nat
  deriving DecidableEq, Repr

structure Verdict where
  passed : Bool
  details : String
  recommendation : Option String
  evidence : Option Evidence
  deriving DecidableEq, Repr

namespace Verdict

def truth (b : Bool) : String := if b then "True" else "False"

def yesNo (b : Bool) : String := if b then "Yes" else "No"

def foundNone (b : Bool) : String := if b then "Found" else "None"

def mark (b : Bool) : String := if b then "✓" else "✗"

def plain (passed : Bool) (details recommendation : String) : Verdict :=
  ⟨passed, details, some recommendation, none⟩

def located (passed : Bool) (details recommendation : String) (evidence : Option Evidence) :
    Verdict :=
  ⟨passed, details, some recommendation, evidence⟩

end Verdict

def maxSnippet : Nat := 500

/-- The items from `start` up to `stop`; a negative place counts from the end. -/
def slice {α : Type} (items : List α) (start stop : Int) : List α :=
  let place (i : Int) : Nat := if i < 0 then (i + items.length).toNat else i.toNat
  (items.take (place stop)).drop (place start)

def lineOf? (lines : List (List Char)) (p : Pattern) : Option Nat :=
  lines.findIdx? p.occursIn

def snippetAt (lines : List (List Char)) (i : Nat) (context : Int) : String :=
  let around := slice lines (max 0 ((i : Int) - context)) (min lines.length ((i : Int) + context + 1))
  String.ofList ((Text.trim (['\n'].intercalate around)).take maxSnippet)

def excerpt (markup : List Char) (p : Pattern) (context : Int) : Option Evidence :=
  let lines := Text.lines markup
  (lineOf? lines p).map fun i => ⟨snippetAt lines i context, i + 1⟩

structure Fault where
  kind : String
  text : String
  deriving DecidableEq, Repr

abbrev Check := Subject → Except Fault Verdict

inductive CheckError where
  | longNumber (digits : Nat)
  | address (cause : Url.UrlError)
  | noDivisor
  | noItem
  deriving DecidableEq, Repr

def maxDigits : Nat := 4300

namespace CheckError

def message : CheckError → String
  | longNumber digits =>
    s!"Exceeds the limit ({maxDigits} digits) for integer string conversion: value has {digits} " ++
      "digits; use sys.set_int_max_str_digits() to increase the limit"
  | address cause => cause.message
  | noDivisor => "division by zero"
  | noItem => "list index out of range"

def kind : CheckError → String
  | longNumber _ => "ValueError"
  | address _ => "ValueError"
  | noDivisor => "ZeroDivisionError"
  | noItem => "IndexError"

def fault (e : CheckError) : Fault := ⟨e.kind, e.message⟩

end CheckError

namespace Subject

def has (s : Subject) (p : Pattern) : Bool := p.occursIn s.markup

def count (s : Subject) (p : Pattern) : Nat := p.count s.markup

def findAll (s : Subject) (p : Pattern) : List (List Char) := p.findAll s.markup

def find? (s : Subject) (p : Pattern) : Option Pattern.Match := p.find? s.markup

def excerptIf (s : Subject) (wanted : Bool) (p : Pattern) (context : Int) : Option Evidence :=
  if wanted then excerpt s.markup p context else none

def excerptOfFirst (s : Subject) (wanted : Bool) (found : List (List Char)) (context : Int) :
    Except CheckError (Option Evidence) :=
  if wanted then
    match found with
    | [] => .error .noItem
    | text :: _ => .ok (excerpt s.markup (.ofText text) context)
  else .ok none

def address (s : Subject) : Except CheckError Url.Parts :=
  match Url.parts s.site with
  | .ok parts => .ok parts
  | .error e => .error (.address e)

end Subject

def readNumber (digits : List Char) : Except CheckError Nat :=
  if maxDigits < digits.length then .error (.longNumber digits.length)
  else .ok (Text.numeral digits)

def quotient (part whole : Nat) : Except CheckError Rat :=
  if whole = 0 then .error .noDivisor else .ok (Number.ratio part whole)

def shareAbove (exempt : Bool) (bound : Rat) (part whole : Nat) : Except CheckError Bool := do
  if exempt then return true
  let share ← quotient part whole
  return bound < share

namespace Check

def ofVerdict (f : Subject → Verdict) : Check := fun s => .ok (f s)

def ofErrors (f : Subject → Except CheckError Verdict) : Check := fun s =>
  match f s with
  | .ok verdict => .ok verdict
  | .error e => .error e.fault

end Check

namespace Pattern

def opens (name : String) : Pattern := of [letters ("<" ++ name)]

def tag (name : String) : Pattern := of [letters ("<" ++ name), inTag, verbatim ">"]

def tagHolding (name text : String) : Pattern := of [letters ("<" ++ name), someInTag, letters text]

def tagValued (name field value : String) : Pattern :=
  of [letters ("<" ++ name), someInTag, valued field value]

def word (text : String) : Pattern := of [letters text]

def words (texts : List String) : Pattern := of [anyOf texts]

def imgTag : Pattern := tag "img"

def anchorTag : Pattern := tag "a"

def stylesheetLink : Pattern := tagValued "link" "rel" "stylesheet"

def viewportMeta : Pattern := tagValued "meta" "name" "viewport"

def sourcedScript : Pattern := of [letters "<script", inTag, letters "src="]

end Pattern

end PageAudit
