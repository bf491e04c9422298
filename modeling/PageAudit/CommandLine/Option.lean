import PageAudit.Text.Case
import PageAudit.Text.Quoted
/-!
Options on a command line: `--name value`, `--name=value`, `-n value`, and several letters behind one
dash. What follows `--` is no option. A name that is none is answered with those that are close to it,
by the longest runs of characters that they share.
-/
namespace PageAudit.Text

def sharedStart : List Char → List Char → Nat
  | a :: as, b :: bs => if a == b then sharedStart as bs + 1 else 0
  | _, _ => 0

def longestRun (a b : List Char) : Nat × Nat × Nat :=
  (List.range a.length).foldl (fun best i =>
    (List.range b.length).foldl (fun best j =>
      let n := sharedStart (a.drop i) (b.drop j)
      if best.2.2 < n then (i, j, n) else best) best) (0, 0, 0)

/-- The characters in the longest shared run, and in those to its left and to its right. The fuel is
the length of the first text. -/
def sharedIn : (fuel : Nat) → List Char → List Char → Nat
  | 0, _, _ => 0
  | fuel + 1, a, b =>
    let (i, j, n) := longestRun a b
    if n = 0 then 0
    else n + sharedIn fuel (a.take i) (b.take j) + sharedIn fuel (a.drop (i + n)) (b.drop (j + n))

def shared (a b : List Char) : Nat := sharedIn a.length a b

def areClose (a b : String) : Bool :=
  3 * (a.length + b.length) ≤ 10 * shared a.toList b.toList

def likeness (a b : String) : Rat := mkRat (2 * shared a.toList b.toList) (a.length + b.length)

def maxClose : Nat := 3

def closest (text : String) (texts : List String) : List String :=
  let close := texts.filter fun t => areClose t text
  let ranked := close.mergeSort fun a b =>
    likeness b text < likeness a text || (likeness b text == likeness a text && b ≤ a)
  (ranked.take maxClose).mergeSort (· ≤ ·)

end PageAudit.Text

namespace PageAudit.CommandLine

inductive ValueKind where
  | flag
  | text
  | decimal
  | integer
  deriving DecidableEq, Repr

def ValueKind.placeholder : ValueKind → String
  | .flag => ""
  | .text => " TEXT"
  | .decimal => " FLOAT"
  | .integer => " INTEGER"

structure OptionForm where
  letter : Option Char
  name : String
  kind : ValueKind
  help : List String
  deriving DecidableEq, Repr

namespace OptionForm

def long (f : OptionForm) : String := "--" ++ f.name

def spellings (f : OptionForm) : List String :=
  (match f.letter with
    | some c => [String.ofList ['-', c]]
    | none => []) ++ [f.long]

def forHelp : OptionForm := ⟨none, "help", .flag, ["Show this message and exit."]⟩

end OptionForm

inductive UsageError where
  | noOption (name : String) (similar : List String)
  | noCommand (name : String) (similar : List String)
  | needsValue (name : String)
  | takesNoValue (name : String)
  | invalidValue (form : OptionForm) (value : String)
  | missingArgument (name : String)
  | extraArguments (values : List String)
  deriving DecidableEq, Repr

def joined (between : String) (texts : List String) : String := between.intercalate texts

def hint : List String → String
  | [] => ""
  | [name] => s!" Did you mean {Text.quoted name}?"
  | names =>
    let names := joined ", " (names.map Text.quoted)
    s!" (Did you mean one of: {names}?)"

def ValueKind.noun : ValueKind → String
  | .decimal => "float"
  | .integer => "integer"
  | .flag => "boolean"
  | .text => "text"

def UsageError.message : UsageError → String
  | .noOption name similar => s!"No such option {Text.quoted name}.{hint similar}"
  | .noCommand name similar => s!"No such command {Text.quoted name}.{hint similar}"
  | .needsValue name => s!"Option {Text.quoted name} requires an argument."
  | .takesNoValue name => s!"Option {Text.quoted name} does not take a value."
  | .invalidValue form value =>
    let spellings := joined " / " (form.spellings.map fun s => s!"'{s}'")
    s!"Invalid value for {spellings}: {Text.quoted value} is not a valid {form.kind.noun}."
  | .missingArgument name => s!"Missing argument '{name}'."
  | .extraArguments [value] => s!"Got unexpected extra argument ({value})"
  | .extraArguments values =>
    let values := joined " " values
    s!"Got unexpected extra arguments ({values})"

structure Given where
  options : List (OptionForm × String)
  rest : List String
  deriving DecidableEq, Repr

namespace Given

def after (found : List (OptionForm × String)) (g : Given) : Given :=
  { g with options := found ++ g.options }

def value? (g : Given) (name : String) : Option String :=
  (g.options.reverse.find? fun (form, _) => form.name == name).map Prod.snd

def has (g : Given) (name : String) : Bool := (g.value? name).isSome

end Given

def isOption (arg : String) : Bool := Text.startsWith arg "-" && arg != "-"

abbrev Reading := List (OptionForm × String) × Option (OptionForm × String)

def readLetters (forms : List OptionForm) : List Char → Except UsageError Reading
  | [] => .ok ([], none)
  | c :: rest =>
    match forms.find? fun f => f.letter == some c with
    | none => .error (.noOption (String.ofList ['-', c]) [])
    | some form =>
      if form.kind == .flag then
        match readLetters forms rest with
        | .error e => .error e
        | .ok (found, waiting) => .ok ((form, "") :: found, waiting)
      else if rest.isEmpty then .ok ([], some (form, String.ofList ['-', c]))
      else .ok ([(form, String.ofList rest)], none)

def splitValue (arg : String) : String × Option String :=
  let cs := arg.toList
  if cs.contains '=' then
    (String.ofList (cs.takeWhile (· != '=')),
      some (String.ofList ((cs.dropWhile (· != '=')).drop 1)))
  else (arg, none)

def readOption (forms : List OptionForm) (arg : String) : Except UsageError Reading :=
  let (name, value) := splitValue arg
  match forms.find? fun f => f.long == name with
  | some form =>
    if form.kind == .flag then
      if value.isSome then .error (.takesNoValue name) else .ok ([(form, "")], none)
    else
      match value with
      | some value => .ok ([(form, value)], none)
      | none => .ok ([], some (form, name))
  | none =>
    if Text.startsWith arg "--" then
      .error (.noOption name (Text.closest name (forms.map OptionForm.long)))
    else readLetters forms (arg.toList.drop 1)

/-- The options among arguments. Unless options may stand `anywhere`, they end before the first
argument that is none. -/
def readArguments (forms : List OptionForm) (anywhere : Bool) :
    List String → Except UsageError Given
  | [] => .ok ⟨[], []⟩
  | arg :: rest =>
    if arg == "--" then .ok ⟨[], rest⟩
    else if isOption arg then
      match readOption forms arg with
      | .error e => .error e
      | .ok (found, none) => (readArguments forms anywhere rest).map (Given.after found)
      | .ok (found, some (form, name)) =>
        match rest with
        | [] => .error (.needsValue name)
        | value :: rest =>
          (readArguments forms anywhere rest).map (Given.after (found ++ [(form, value)]))
    else if anywhere then
      (readArguments forms anywhere rest).map fun g => { g with rest := arg :: g.rest }
    else .ok ⟨[], arg :: rest⟩

end PageAudit.CommandLine
