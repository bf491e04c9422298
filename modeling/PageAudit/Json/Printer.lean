import PageAudit.Text.Quoted
/-!
JSON values and their text, in one line or with every item on a line of its own. A number is kept as
it is written; the fields of an object stay in order, and of two fields of one name the later one
counts.
-/
namespace PageAudit

inductive Json where
  | null
  | bool (value : Bool)
  | number (text : String)
  | string (value : String)
  | list (items : List Json)
  | object (fields : List (String × Json))
  deriving Repr

namespace Json

def int (n : Int) : Json := .number (toString n)

def nat (n : Nat) : Json := int n

def string? : Option String → Json
  | some value => .string value
  | none => .null

def nat? : Option Nat → Json
  | some n => nat n
  | none => .null

def strings (items : List String) : Json := .list (items.map .string)

def fields : Json → List (String × Json)
  | object fields => fields
  | _ => []

def items : Json → List Json
  | list items => items
  | _ => []

def get? (value : Json) (name : String) : Option Json := value.fields.reverse.lookup name

end Json

end PageAudit

namespace PageAudit.Json

def escapedChar (c : Char) : List Char :=
  if c == '"' then ['\\', '"']
  else if c == '\\' then ['\\', '\\']
  else if c == '\n' then ['\\', 'n']
  else if c == '\r' then ['\\', 'r']
  else if c == '\t' then ['\\', 't']
  else if c.toNat == 8 then ['\\', 'b']
  else if c.toNat == 12 then ['\\', 'f']
  else if c.toNat < 32 then '\\' :: 'u' :: Text.hex 4 c.toNat
  else [c]

def quote (text : String) : String :=
  String.ofList ('"' :: text.toList.flatMap escapedChar ++ ['"'])

structure Spacing where
  step : Option Nat
  comma : String
  colon : String

def inline : Spacing := ⟨none, ", ", ": "⟩

def indented : Spacing := ⟨some 2, ",", ": "⟩

def Spacing.newline (s : Spacing) (level : Nat) : String :=
  match s.step with
  | some step => "\n" ++ String.ofList (List.replicate (step * level) ' ')
  | none => ""

def Spacing.enclose (s : Spacing) (level : Nat) (left right : String) (items : List String) :
    String :=
  if items.isEmpty then left ++ right
  else
    left ++ s.newline (level + 1) ++ (s.comma ++ s.newline (level + 1)).intercalate items ++
      s.newline level ++ right

mutual

def write (s : Spacing) (level : Nat) : Json → String
  | null => "null"
  | bool value => if value then "true" else "false"
  | number text => text
  | string value => quote value
  | list items => s.enclose level "[" "]" (writeItems s (level + 1) items)
  | object fields => s.enclose level "\x7b" "\x7d" (writeFields s (level + 1) fields)

def writeItems (s : Spacing) (level : Nat) : List Json → List String
  | [] => []
  | item :: rest => write s level item :: writeItems s level rest

def writeFields (s : Spacing) (level : Nat) : List (String × Json) → List String
  | [] => []
  | (name, value) :: rest =>
    (quote name ++ s.colon ++ write s level value) :: writeFields s level rest

end

def line (value : Json) : String := value.write inline 0

def pretty (value : Json) : String := value.write indented 0

end PageAudit.Json
