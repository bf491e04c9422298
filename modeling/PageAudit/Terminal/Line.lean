import PageAudit.Terminal.Markup
import PageAudit.Text.Cells
/-!
Lines on a terminal: text is cut at newlines, tabs lead to the next stop, and no line is wrapped. A
panel is a frame with a title around lines; a table has a rule below its head.
-/
namespace PageAudit.Terminal

def tabStop : Nat := 8

def isDropped (c : Char) : Bool :=
  let n := c.toNat
  n == 7 || n == 8 || n == 11 || n == 12 || n == 13

def spaces (n : Nat) : List Char := List.replicate n ' '

def withoutTabs : (cell : Nat) → List Char → List Char
  | _, [] => []
  | cell, c :: rest =>
    if c == '\t' then
      let gap := tabStop - cell % tabStop
      spaces gap ++ withoutTabs (cell + gap) rest
    else c :: withoutTabs (cell + Text.cells c) rest

def lines (text : List Char) : List (List Char) :=
  (Text.lines (text.filter (!isDropped ·))).map (withoutTabs 0)

abbrev Written := Except MarkupError (List (List Char))

def marked (text : String) : Written :=
  match shown text with
  | .ok cs => .ok (lines cs)
  | .error e => .error e

def plain (text : String) : List (List Char) := lines (withEmoji text.toList)

def stack : List Written → Written
  | [] => .ok []
  | first :: rest =>
    match first with
    | .error e => .error e
    | .ok lines =>
      match stack rest with
      | .error e => .error e
      | .ok more => .ok (lines ++ more)

def blank : Written := .ok [[]]

def padRight (width : Nat) (line : List Char) : List Char :=
  line ++ spaces (width - Text.width line)

def padLeft (width : Nat) (line : List Char) : List Char :=
  spaces (width - Text.width line) ++ line

def terminalWidth : Nat := 200

def bar (n : Nat) : List Char := List.replicate n '─'

def panelTop (title : List Char) : List Char :=
  let title := ' ' :: title ++ [' ']
  let free := terminalWidth - 2 - Text.width title
  '╭' :: bar (free / 2) ++ title ++ bar (free - free / 2) ++ ['╮']

def panelLine (line : List Char) : List Char :=
  '│' :: ' ' :: padRight (terminalWidth - 4) line ++ [' ', '│']

def panelBottom : List Char := '╰' :: bar (terminalWidth - 2) ++ ['╯']

def panel (title text : String) : Written :=
  match marked text with
  | .ok lines => .ok (panelTop title.toList :: lines.map panelLine ++ [panelBottom])
  | .error e => .error e

structure Column where
  head : String
  right : Bool

def Column.cell (c : Column) (width : Nat) (text : List Char) : List Char :=
  ' ' :: (if c.right then padLeft width text else padRight width text) ++ [' ']

def tableLine (columns : List (Column × Nat)) (texts : List (List Char)) : List Char :=
  ' ' :: [' '].intercalate (List.zipWith (fun (c, width) text => c.cell width text) columns texts) ++
    [' ']

def columnWidths (columns : List Column) (rows : List (List (List Char))) : List Nat :=
  rows.foldl (fun widths row => List.zipWith (fun w text => max w (Text.width text)) widths row)
    (columns.map fun c => Text.width c.head.toList)

def table (columns : List Column) (rows : List (List String)) : List (List Char) :=
  let rows := rows.map fun row => row.map String.toList
  let sized := columns.zip (columnWidths columns rows)
  let inner := sized.foldl (fun n (_, width) => n + width + 2) (columns.length - 1)
  let empty := spaces (inner + 2)
  empty :: tableLine sized (columns.map fun c => c.head.toList) ::
    (' ' :: bar inner ++ [' ']) :: rows.map (tableLine sized) ++ [empty]

end PageAudit.Terminal
