import PageAudit.Check.Basic
import PageAudit.Http.Message
import PageAudit.Json.Parser
import PageAudit.Json.Printer
import PageAudit.Text.Case
import PageAudit.Text.Kind
/-!
Calls of the service and its replies. Every origin is allowed; a browser asks beforehand for methods
and headers, and such a question is answered without looking at the path. The body of a call for an
audit is an object with the address of a site and a token that selects rules.
-/
namespace PageAudit.Service

structure Call where
  method : String
  path : String
  headers : Http.Headers
  body : String
  deriving DecidableEq, Repr

inductive Content where
  | json (value : Json)
  | text (s : String)

structure Reply where
  status : Nat
  headers : Http.Headers
  content : Content

def Content.mediaType : Content → String
  | .json _ => "application/json"
  | .text _ => "text/plain; charset=utf-8"

namespace Reply

def withHeaders (status : Nat) (headers : List (String × String)) (content : Content) : Reply :=
  ⟨status, .ofList (headers ++ [("content-type", content.mediaType)]), content⟩

def ofJson (status : Nat) (value : Json) : Reply := withHeaders status [] (.json value)

def refusal (status : Nat) (headers : List (String × String)) (detail : String) : Reply :=
  withHeaders status headers (.json (.object [("detail", .string detail)]))

def push (r : Reply) (name value : String) : Reply := { r with headers := r.headers.push name value }

end Reply

def allowedMethods : List String := ["GET", "POST", "OPTIONS"]

def allowedHeaders : List String := [
  "Accept", "Accept-Language", "Content-Language", "Content-Type"]

def maxAge : Nat := 600

def askedMethod? (call : Call) : Option String :=
  if call.method == "OPTIONS" && call.headers.contains "origin" then
    call.headers.get? "access-control-request-method"
  else none

def allowsHeaders (names : String) : Bool :=
  (names.toList.splitOn ',').all fun name =>
    (allowedHeaders.map Text.lowercase).contains
      (Text.lowercase (String.ofList (Text.trim name)))

def refusals (call : Call) (method : String) : List String :=
  (if allowedMethods.contains method then [] else ["method"]) ++
    (match call.headers.get? "access-control-request-headers" with
      | some names => if allowsHeaders names then [] else ["headers"]
      | none => []) ++
    (if call.headers.contains "access-control-request-private-network" then ["private-network"]
      else [])

def answerQuestion (call : Call) (method : String) : Reply :=
  let headers := [
    ("vary", "Origin, Access-Control-Request-Method, Access-Control-Request-Headers, " ++
      "Access-Control-Request-Private-Network"),
    ("access-control-allow-methods", (", ").intercalate allowedMethods),
    ("access-control-max-age", toString maxAge),
    ("access-control-allow-headers", (", ").intercalate allowedHeaders),
    ("access-control-allow-origin", "*")]
  match refusals call method with
  | [] => .withHeaders 200 headers (.text "OK")
  | what => .withHeaders 400 headers (.text ("Disallowed CORS " ++ (", ").intercalate what))

def openTo (call : Call) (r : Reply) : Reply :=
  let r := r.push "vary" "Origin"
  match call.headers.get? "origin" with
  | some origin =>
    r.push "access-control-allow-origin" (if call.headers.contains "cookie" then origin else "*")
  | none => r

inductive BodyError where
  | unreadable
  | digits
  | noObject
  | field (name : String)
  deriving DecidableEq, Repr

def BodyError.message : BodyError → String
  | .unreadable => "The body should be JSON"
  | .digits => "There was an error parsing the body"
  | .noObject => "The body should be an object"
  | .field name => s!"{name} should be a string or null"

structure Order where
  site : Option String
  token : Option String
  deriving DecidableEq, Repr

namespace Order

def empty : Order := ⟨none, some "all"⟩

def present? (value : Json) (names : List String) : Option (String × Json) :=
  names.findSome? fun name => (value.get? name).map fun field => (name, field)

def textField (value : Json) (names : List String) (missing : Option String) :
    Except BodyError (Option String) :=
  match present? value names with
  | none => .ok missing
  | some (_, .string s) => .ok (some s)
  | some (_, .null) => .ok none
  | some (name, _) => .error (.field name)

def ofJson : Json → Except BodyError Order
  | .null => .ok empty
  | .object fields => do
    let value := Json.object fields
    let site ← textField value ["siteUrl", "site_url"] empty.site
    let token ← textField value ["sourceFilter", "source_filter"] empty.token
    return ⟨site, token⟩
  | _ => .error .noObject

def isJsonType (mediaType : String) : Bool :=
  let name := Text.lowercaseAfter false (Text.trim (mediaType.toList.takeWhile (· != ';')))
  match name.splitOn '/' with
  | [main, sub] =>
    main == "application".toList && (sub == "json".toList || "+json".toList.isSuffixOf sub)
  | _ => false

def withoutMark (text : String) : String :=
  match text.toList with
  | '\uFEFF' :: rest => String.ofList rest
  | _ => text

def ofCall (call : Call) : Except BodyError Order :=
  if call.body.isEmpty then .ok empty
  else if isJsonType ((call.headers.get? "content-type").getD "") then
    match Json.parse (some maxDigits) (withoutMark call.body) with
    | .ok value => ofJson value
    | .error .malformed => .error .unreadable
    | .error .digits => .error .digits
  else .error .unreadable

end Order

end PageAudit.Service
