import PageAudit.Json.Printer
import PageAudit.Number.Decimal
/-!
Settings: given values before those of the environment, and those before the defaults. A value is
checked where it is taken from; one that is given hides that of the environment.
-/
namespace PageAudit

structure Settings where
  timeout : Number.Double
  userAgent : String
  accept : String
  logLevel : String
  logJson : Bool
  deriving DecidableEq, Repr

inductive FieldProblem where
  | greaterThan
  | floatParsing
  | floatType
  | boolParsing
  | boolType
  | stringType
  deriving DecidableEq, Repr

def FieldProblem.name : FieldProblem → String
  | .greaterThan => "greater_than"
  | .floatParsing => "float_parsing"
  | .floatType => "float_type"
  | .boolParsing => "bool_parsing"
  | .boolType => "bool_type"
  | .stringType => "string_type"

structure SettingsError where
  fields : List (String × FieldProblem)
  deriving DecidableEq, Repr

structure Environment where
  bindings : List (String × String)
  deriving DecidableEq, Repr

namespace Environment

def empty : Environment := ⟨[]⟩

def set (env : Environment) (name value : String) : Environment :=
  if env.bindings.any fun v => v.1 == name then
    ⟨env.bindings.map fun v => if v.1 == name then (name, value) else v⟩
  else ⟨env.bindings ++ [(name, value)]⟩

def unset (env : Environment) (name : String) : Environment :=
  ⟨env.bindings.filter fun v => v.1 != name⟩

def lowered (name : String) : String := String.ofList (name.toList.map Char.toLower)

def get? (env : Environment) (name : String) : Option String :=
  (env.bindings.reverse.find? fun v => lowered v.1 == lowered name).map Prod.snd

end Environment

namespace Settings

def defaultUserAgent : String :=
  "Mozilla/5.0 (compatible; WebInspector/1.0; +https://github.com/web-inspector/web-inspector)"

def defaultAccept : String := "text/html,application/xhtml+xml,application/xml;q=0.9,*/*;q=0.8"

def variablePrefix : String := "WEB_INSPECTOR_"

/-- A text without the underscores that stand alone inside it; none where one stands at an end or
beside another. -/
def withoutSeparators? (text : List Char) : Option (List Char) :=
  if (text.splitOn '_').any List.isEmpty then none else some (text.filter (· != '_'))

def isSpace (c : Char) : Bool := Text.isBlank c && !(28 ≤ c.toNat && c.toNat ≤ 31)

/-- A number from the text of a setting: decimal, with white space around it but for the control
characters that separate records, or grouped by underscores and without white space. -/
def decimalText? (text : String) : Option Number.Double :=
  match Number.decimal? ((text.toList.dropWhile isSpace).reverse.dropWhile isSpace).reverse with
  | some x => some x
  | none => (withoutSeparators? text.toList).bind Number.decimal?

def truthWords : List (String × Bool) := [
  ("0", false), ("off", false), ("f", false), ("false", false), ("n", false), ("no", false),
  ("1", true), ("on", true), ("t", true), ("true", true), ("y", true), ("yes", true)]

def truthText? (text : String) : Option Bool :=
  truthWords.lookup (String.ofList (text.toList.map Char.toLower))

def checkTimeout (x : Number.Double) : Except FieldProblem Number.Double :=
  if Number.Double.less 0 x then .ok x else .error .greaterThan

def isWhole (text : String) : Bool := text.toList.all fun c => c.isDigit || c == '-'

def readTimeout : Json → Except FieldProblem Number.Double
  | .number text =>
    match Number.decimal? text.toList with
    | some x => if isWhole text && x.value?.isNone then .error .floatType else checkTimeout x
    | none => .error .floatParsing
  | .string text =>
    match decimalText? text with
    | some x => checkTimeout x
    | none => .error .floatParsing
  | .bool b => checkTimeout (if b then 1 else 0)
  | _ => .error .floatType

def readText : Json → Except FieldProblem String
  | .string text => .ok text
  | _ => .error .stringType

def readTruth : Json → Except FieldProblem Bool
  | .bool b => .ok b
  | .string text =>
    match truthText? text with
    | some b => .ok b
    | none => .error .boolParsing
  | .number text =>
    match Number.decimal? text.toList with
    | some x =>
      if x.value? == some 0 then .ok false
      else if x.value? == some 1 then .ok true
      else .error .boolParsing
    | none => .error .boolParsing
  | _ => .error .boolType

def value? (env : Environment) (given : List (String × Json)) (name : String) : Option Json :=
  match given.reverse.lookup name with
  | some value => some value
  | none => (env.get? (variablePrefix ++ name)).map .string

def field {α : Type} (env : Environment) (given : List (String × Json)) (name : String)
    (read : Json → Except FieldProblem α) (default : α) : Except FieldProblem α :=
  match value? env given name with
  | some value => read value
  | none => .ok default

def problem? {α : Type} (name : String) : Except FieldProblem α → List (String × FieldProblem)
  | .ok _ => []
  | .error problem => [(name, problem)]

def ofGiven (env : Environment) (given : List (String × Json)) : Except SettingsError Settings :=
  let accept := field env given "accept" readText defaultAccept
  let logJson := field env given "log_json" readTruth false
  let logLevel := field env given "log_level" readText "INFO"
  let timeout := field env given "timeout" readTimeout 10
  let userAgent := field env given "user_agent" readText defaultUserAgent
  match accept, logJson, logLevel, timeout, userAgent with
  | .ok accept, .ok logJson, .ok logLevel, .ok timeout, .ok userAgent =>
    .ok ⟨timeout, userAgent, accept, logLevel, logJson⟩
  | _, _, _, _, _ =>
    .error ⟨problem? "accept" accept ++ problem? "log_json" logJson ++
      problem? "log_level" logLevel ++ problem? "timeout" timeout ++
      problem? "user_agent" userAgent⟩

def ofEnvironment (env : Environment) : Except SettingsError Settings := ofGiven env []

end Settings

structure SettingsStore where
  environment : Environment
  cached : Option Settings
  deriving DecidableEq, Repr

inductive SettingsStep where
  | set (name value : String)
  | unset (name : String)
  | clear
  | get
  | new (given : List (String × Json))

namespace SettingsStore

def start (env : Environment) : SettingsStore := ⟨env, none⟩

def get (store : SettingsStore) : Except SettingsError Settings × SettingsStore :=
  match store.cached with
  | some settings => (.ok settings, store)
  | none =>
    match Settings.ofEnvironment store.environment with
    | .ok settings => (.ok settings, { store with cached := some settings })
    | .error e => (.error e, store)

def step (store : SettingsStore) :
    SettingsStep → Option (Except SettingsError Settings) × SettingsStore
  | .set name value => (none, { store with environment := store.environment.set name value })
  | .unset name => (none, { store with environment := store.environment.unset name })
  | .clear => (none, { store with cached := none })
  | .get => let (answer, store) := store.get; (some answer, store)
  | .new given => (some (Settings.ofGiven store.environment given), store)

def run (store : SettingsStore) : List SettingsStep → List (Option (Except SettingsError Settings))
  | [] => []
  | s :: steps => let (answer, store) := store.step s; answer :: run store steps

end SettingsStore

end PageAudit
