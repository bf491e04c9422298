import PageAudit.Audit
import PageAudit.Http.Address
import PageAudit.Rule.Source
import PageAudit.Service.Call
/-!
The service: audits on demand, and the list of sources. What a call asks for in a wrong way is its
own fault; an audit that breaks off is the fault of the service.
-/
namespace PageAudit

def SettingsError.message (e : SettingsError) : String :=
  "Invalid settings: " ++ (", ").intercalate (e.fields.map fun (name, p) => s!"{name} ({p.name})")

namespace Service

inductive Route where
  | analyze
  | sources
  deriving DecidableEq, Repr

namespace Route

def path : Route → String
  | analyze => "/api/analyze"
  | sources => "/api/sources"

def method : Route → String
  | analyze => "POST"
  | sources => "GET"

def all : List Route := [analyze, sources]

def ofPath? (path : List Char) : Option Route :=
  let path := (path.reverse.dropWhile (· == '/')).reverse
  all.find? fun route => route.path.toList == path

end Route

def pathOf (call : Call) : List Char :=
  let path := call.path.toList.takeWhile fun c => c != '?' && c != '#'
  Http.normalPath (if path.head? == some '/' then path else '/' :: path)

def sourceJson (s : RuleSource) : Json :=
  .object [
    ("id", .string s.id),
    ("name", .string s.name),
    ("organization", .string s.organization),
    ("description", .string s.description),
    ("url", .string s.url),
    ("ruleCount", .nat (s.select catalog).length)]

def listSources : Reply := .ofJson 200 (.list (RuleSource.all.map sourceJson))

def errorReply (status : Nat) (error : String) (message : Option String) : Reply :=
  .ofJson status (.object (("error", .string error) ::
    match message with
    | some message => [("message", .string message)]
    | none => []))

def refuseBody : BodyError → Reply
  | .digits => .refusal 400 [] BodyError.digits.message
  | e => errorReply 400 "Invalid request body" (some e.message)

def failed (order : Order) (cause : String) (w : World) : Reply × World :=
  (errorReply 500 "Failed to analyze website" (some cause), w.tell (.requestFailed order.site))

def tokenOf (order : Order) : String := (order.token.filter (!·.isEmpty)).getD "all"

def audit (auditor : Auditor) (order : Order) : Reply × World :=
  match auditor.analyze order.site (some (tokenOf order)) .start with
  | (.ok result, w) => (.ofJson 200 result.toJson, w)
  | (.error (.site e), w) => (errorReply 400 e.message none, w)
  | (.error (.settings e), w) => failed order e.message w
  | (.error (.broken fault), w) => failed order fault.text w

def analyze (auditor : Auditor) (call : Call) : Reply × World :=
  match Order.ofCall call with
  | .error e => (refuseBody e, .start)
  | .ok order => audit auditor order

def route (auditor : Auditor) (call : Call) : Reply × World :=
  match Route.ofPath? (pathOf call) with
  | none => (.refusal 404 [] "Not Found", .start)
  | some r =>
    if call.method != r.method then
      (.refusal 405 [("allow", r.method)] "Method Not Allowed", .start)
    else
      match r with
      | .analyze => analyze auditor call
      | .sources => (listSources, .start)

def answer (auditor : Auditor) (call : Call) : Reply × World :=
  match askedMethod? call with
  | some method => (answerQuestion call method, .start)
  | none =>
    let (r, w) := route auditor call
    (openTo call r, w)

end Service

end PageAudit
