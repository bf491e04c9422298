import PageAudit.Terminal.Emoji
/-!
Text with style tags in brackets. Tags do not show; a closing tag has to close something. A
backslash before a tag makes it plain text.
-/
namespace PageAudit.Terminal

structure Tag where
  name : List Char
  parameters : Option (List Char)
  deriving DecidableEq, Repr

def Tag.markup (t : Tag) : String :=
  String.ofList ('[' :: t.name ++ (match t.parameters with
    | some parameters => '=' :: parameters
    | none => []) ++ [']'])

inductive MarkupError where
  | unmatched (tag : Tag) (position : Nat)
  | nothingOpen (position : Nat)
  deriving DecidableEq, Repr

def MarkupError.message : MarkupError → String
  | .unmatched tag position =>
    s!"closing tag '{tag.markup}' at position {position} doesn't match any open tag"
  | .nothingOpen position => s!"closing tag '[/]' at position {position} has nothing to close"

inductive MarkupPiece where
  | text (cs : List Char)
  | tag (t : Tag) (position : Nat)
  deriving DecidableEq, Repr

def startsTag (c : Char) : Bool := ('a' ≤ c && c ≤ 'z') || c == '#' || c == '/' || c == '@'

def tagText? : List Char → Option (List Char)
  | [] => none
  | c :: rest =>
    let body := rest.takeWhile fun c => c != ']' && c != '['
    if startsTag c && (rest.drop body.length).head? == some ']' then some (c :: body) else none

def Tag.ofText (text : List Char) : Tag :=
  ⟨text.takeWhile (· != '='),
    if text.contains '=' then some ((text.dropWhile (· != '=')).drop 1) else none⟩

def tagAt? (text : List Char) : Option (Nat × List Char) :=
  let slashes := (text.takeWhile (· == '\\')).length
  match text.drop slashes with
  | '[' :: rest => (tagText? rest).map fun tag => (slashes, tag)
  | _ => none

def withoutEscapes : List Char → List Char
  | [] => []
  | '\\' :: '[' :: rest => '[' :: withoutEscapes rest
  | c :: rest => c :: withoutEscapes rest

/-- The pieces that a tag after backslashes stands for: half of the backslashes, and the tag or,
after an odd number of them, its text. -/
def tagPieces (position slashes : Nat) (tag : List Char) : List MarkupPiece :=
  let kept := List.replicate (slashes / 2) '\\'
  (if slashes / 2 = 0 then [] else [.text kept]) ++
    if slashes % 2 = 1 then [.text ('[' :: tag ++ [']'])]
    else [.tag (.ofText tag) (position + slashes)]

def plainPiece (plain : List Char) : List MarkupPiece :=
  if plain.isEmpty then [] else [.text (withoutEscapes plain.reverse)]

/-- The pieces of a text from a position on. The first `skip` characters are done with, and `plain`
holds the text since the last tag backwards. -/
def piecesFrom : (skip position : Nat) → (plain : List Char) → List Char → List MarkupPiece
  | _, _, plain, [] => plainPiece plain
  | skip + 1, position, plain, _ :: rest => piecesFrom skip (position + 1) plain rest
  | 0, position, plain, c :: rest =>
    if c == '[' || (c == '\\' && plain.head? != some '\\') then
      match tagAt? (c :: rest) with
      | some (slashes, tag) =>
        plainPiece plain ++ tagPieces position slashes tag ++
          piecesFrom (slashes + tag.length + 1) (position + 1) [] rest
      | none => piecesFrom 0 (position + 1) (c :: plain) rest
    else piecesFrom 0 (position + 1) (c :: plain) rest

def pieces (text : List Char) : List MarkupPiece := piecesFrom 0 0 [] text

def styleNames : List (String × String) := [
  ("b", "bold"), ("d", "dim"), ("i", "italic"), ("u", "underline"), ("uu", "underline2"),
  ("r", "reverse"), ("c", "conceal"), ("s", "strike"), ("o", "overline")]

def styleName (name : List Char) : String :=
  let name := String.ofList (Text.lowercaseAfter false (Text.trim name))
  (styleNames.lookup name).getD name

def readPieces : (opened : List String) → List MarkupPiece → Except MarkupError (List Char)
  | _, [] => .ok []
  | opened, .text cs :: rest =>
    match readPieces opened rest with
    | .ok shown => .ok (withEmoji cs ++ shown)
    | .error e => .error e
  | opened, .tag t position :: rest =>
    match t.name with
    | '/' :: name =>
      if (Text.trim name).isEmpty then
        match opened with
        | [] => .error (.nothingOpen position)
        | _ :: opened => readPieces opened rest
      else if opened.contains (styleName name) then readPieces (opened.erase (styleName name)) rest
      else .error (.unmatched t position)
    | name => readPieces (styleName name :: opened) rest

def shown (text : String) : Except MarkupError (List Char) :=
  let cs := text.toList
  if cs.contains '[' then readPieces [] (pieces cs) else .ok (withEmoji cs)

end PageAudit.Terminal
