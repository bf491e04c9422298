import PageAudit.Text.Case
import PageAudit.Text.Kind
/-!
Search patterns and their matches. A pattern is read from left to right and every piece holds what
has to follow it, so both sides of an alternative carry the rest. Ways to match are tried in a fixed
order, and the first that succeeds is the match at a place. Matches in a text are found from left to
right without overlap, as if a blank stood before it. Pieces turn the pattern of what follows into
the pattern of themselves and what follows, and `of` puts pieces in a row.
-/
namespace PageAudit

inductive Pattern where
  | done
  | one (accepts : Char → Bool) (next : Pattern)
  /-- Any number of characters of a kind, the longest run first. -/
  | many (accepts : Char → Bool) (next : Pattern)
  /-- Any number of characters of a kind, the shortest run first. -/
  | few (accepts : Char → Bool) (next : Pattern)
  | either (left right : Pattern)
  /-- The next pattern, at a place where `ahead` does not match. -/
  | lacking (ahead next : Pattern)
  | edge (next : Pattern)
  | opening (next : Pattern)
  | closing (next : Pattern)
  /-- The text of the group once more, letter case apart. -/
  | again (next : Pattern)

namespace Pattern

/-- What a match has passed so far: the character before the current place, how many characters
were taken, and the group, as the text from its start on and its length. -/
structure Trail where
  before : Char
  taken : Nat
  groupText : List Char
  groupStart : Nat
  groupLength : Nat
  deriving DecidableEq, Repr

namespace Trail

def start (before : Char) : Trail := ⟨before, 0, [], 0, 0⟩

def step (t : Trail) (c : Char) : Trail := { t with before := c, taken := t.taken + 1 }

def group (t : Trail) : List Char := t.groupText.take t.groupLength

end Trail

abbrev Place := Trail × List Char

/-- The places after each run of accepted characters, the longest run first, before `shorter`. -/
def runs (accepts : Char → Bool) (shorter : List Place) : Trail → List Char → List Place
  | t, [] => (t, []) :: shorter
  | t, c :: rest =>
    if accepts c then runs accepts ((t, c :: rest) :: shorter) (t.step c) rest
    else (t, c :: rest) :: shorter

def soonest (accepts : Char → Bool) (goal : Trail → List Char → Option Trail) :
    Trail → List Char → Option Trail
  | t, [] => goal t []
  | t, c :: rest =>
    match goal t (c :: rest) with
    | some reached => some reached
    | none => if accepts c then soonest accepts goal (t.step c) rest else none

def reread : (group : List Char) → Trail → List Char → Option Place
  | [], t, text => some (t, text)
  | g :: group, t, c :: rest =>
    if Text.lower g == Text.lower c then reread group (t.step c) rest else none
  | _ :: _, _, [] => none

/-- A place between a word character and another one; the ends of the text count as no word. -/
def atEdge (t : Trail) (text : List Char) : Bool :=
  match text with
  | [] => Text.isWord t.before
  | c :: _ => Text.isWord t.before != Text.isWord c

def run : Pattern → Trail → List Char → Option Trail
  | done, t, _ => some t
  | one _ _, _, [] => none
  | one accepts next, t, c :: rest => if accepts c then next.run (t.step c) rest else none
  | many accepts next, t, text =>
    (runs accepts [] t text).findSome? fun place => next.run place.1 place.2
  | few accepts next, t, text => soonest accepts next.run t text
  | either left right, t, text =>
    match left.run t text with
    | some reached => some reached
    | none => right.run t text
  | lacking ahead next, t, text => if (ahead.run t text).isSome then none else next.run t text
  | edge next, t, text => if atEdge t text then next.run t text else none
  | opening next, t, text => next.run { t with groupText := text, groupStart := t.taken } text
  | closing next, t, text => next.run { t with groupLength := t.taken - t.groupStart } text
  | again next, t, text =>
    match reread t.group t text with
    | some place => next.run place.1 place.2
    | none => none

def matchAt? (p : Pattern) (before : Char) (text : List Char) : Option Trail :=
  p.run (Trail.start before) text

/-- False only for characters that no match can start with. -/
def mayStartWith : Pattern → Char → Bool
  | one accepts _, c => accepts c
  | either left right, c => left.mayStartWith c || right.mayStartWith c
  | edge next, c => next.mayStartWith c
  | opening next, c => next.mayStartWith c
  | _, _ => true


structure Match where
  text : List Char
  group : List Char
  deriving DecidableEq, Repr

def Trail.found (t : Trail) (text : List Char) : Match := ⟨text.take t.taken, t.group⟩

def findFrom? (p : Pattern) : (before : Char) → List Char → Option Match
  | before, [] => (p.matchAt? before []).map fun t => t.found []
  | before, c :: rest =>
    if p.mayStartWith c then
      match p.matchAt? before (c :: rest) with
      | some t => some (t.found (c :: rest))
      | none => p.findFrom? c rest
    else p.findFrom? c rest

def find? (p : Pattern) (text : List Char) : Option Match := p.findFrom? ' ' text

def occursIn (p : Pattern) (text : List Char) : Bool := (p.find? text).isSome

/-- Folds over the matches of a text from left to right. The first `skip` characters belong to the
match before; a match of no characters is followed by one character that belongs to none. -/
def foldFrom {α : Type} (p : Pattern) (add : α → Match → α) :
    (skip : Nat) → α → (before : Char) → List Char → α
  | 0, found, before, [] =>
    match p.matchAt? before [] with
    | some t => add found (t.found [])
    | none => found
  | _ + 1, found, _, [] => found
  | skip + 1, found, _, c :: rest => p.foldFrom add skip found c rest
  | 0, found, before, c :: rest =>
    if p.mayStartWith c then
      match p.matchAt? before (c :: rest) with
      | some t => p.foldFrom add (t.taken - 1) (add found (t.found (c :: rest))) c rest
      | none => p.foldFrom add 0 found c rest
    else p.foldFrom add 0 found c rest

def matches? (p : Pattern) (text : List Char) : List Match :=
  (p.foldFrom (fun found m => m :: found) 0 [] ' ' text).reverse

def findAll (p : Pattern) (text : List Char) : List (List Char) :=
  (p.matches? text).map Match.text

def count (p : Pattern) (text : List Char) : Nat := p.foldFrom (fun n _ => n + 1) 0 0 ' ' text

def removeFrom (p : Pattern) :
    (skip : Nat) → (kept : List Char) → (before : Char) → List Char → List Char
  | _, kept, _, [] => kept
  | skip + 1, kept, _, c :: rest => p.removeFrom skip kept c rest
  | 0, kept, before, c :: rest =>
    if p.mayStartWith c then
      match p.matchAt? before (c :: rest) with
      | some t =>
        if t.taken = 0 then p.removeFrom 0 (c :: kept) c rest
        else p.removeFrom (t.taken - 1) kept c rest
      | none => p.removeFrom 0 (c :: kept) c rest
    else p.removeFrom 0 (c :: kept) c rest

def remove (p : Pattern) (text : List Char) : List Char := (p.removeFrom 0 [] ' ' text).reverse

abbrev Piece := Pattern → Pattern

def row (pieces : List Piece) (next : Pattern) : Pattern :=
  pieces.foldr (fun piece rest => piece rest) next

def of (pieces : List Piece) : Pattern := row pieces .done

def lettersOf (text : List Char) : Piece :=
  fun next => text.foldr (fun c rest => .one (Text.hasKey (Text.caseKey c)) rest) next

def letters (text : String) : Piece := lettersOf text.toList

def verbatim (text : String) : Piece :=
  fun next => text.toList.foldr (fun c rest => .one (· == c) rest) next

def char (accepts : Char → Bool) : Piece := .one accepts

def zeroOrMore (accepts : Char → Bool) : Piece := .many accepts

def oneOrMore (accepts : Char → Bool) : Piece := fun next => .one accepts (.many accepts next)

def fewest (accepts : Char → Bool) : Piece := .few accepts

def atMost (accepts : Char → Bool) : Nat → Piece
  | 0 => id
  | n + 1 => fun next => .either (.one accepts (atMost accepts n next)) next

def oneOf : List (List Piece) → Piece
  | [] => id
  | [pieces] => row pieces
  | pieces :: more => fun next => .either (row pieces next) (oneOf more next)

def anyOf (texts : List String) : Piece := oneOf (texts.map fun text => [letters text])

def anyVerbatim (texts : List String) : Piece := oneOf (texts.map fun text => [verbatim text])

def absent (pieces : List Piece) : Piece := .lacking (of pieces)

def group (pieces : List Piece) : Piece := fun next => .opening (row pieces (.closing next))

def repeated : Piece := .again

def wordEdge : Piece := .edge

def except (chars : List Char) : Char → Bool := fun c => !chars.contains c

def isQuote (c : Char) : Bool := c == '"' || c == '\''

def anyChar : Char → Bool := fun _ => true

def quote : Piece := char isQuote

def blanks : Piece := zeroOrMore Text.isBlank

def someBlanks : Piece := oneOrMore Text.isBlank

def inTag : Piece := zeroOrMore (except ['>'])

def someInTag : Piece := oneOrMore (except ['>'])

def valued (name value : String) : Piece :=
  row [letters name, verbatim "=", quote, letters value, quote]

def ofText (text : List Char) : Pattern := of [lettersOf text]

end Pattern

end PageAudit
