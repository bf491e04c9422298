import PageAudit.Check.Basic
import PageAudit.Event
import PageAudit.Http.Address
import PageAudit.Http.Message
import PageAudit.Settings
/-!
Fetching a page: at most two requests, the second to where the first response points, within one
time for both. The second response is taken whatever its status. What a fetch sees of the world is
the replies to its requests and a clock that only they advance; what it did is kept as a history.
-/
namespace PageAudit

structure Request where
  url : String
  userAgent : String
  accept : String
  timeout : Number.Double
  deriving DecidableEq, Repr

/-- A response as it is handed over: the codings of its content are undone. -/
structure Response where
  status : Nat
  headers : Http.Headers
  body : List UInt8
  deriving DecidableEq, Repr

inductive Answer where
  | response (r : Response)
  | timeout
  | failure (kind message : String)
  | broken (fault : Fault)
  deriving DecidableEq, Repr

namespace Answer

def timeouts : List String := ["ConnectTimeout", "ReadTimeout", "WriteTimeout", "PoolTimeout"]

def failures : List String := ["ConnectError", "ReadError", "WriteError", "CloseError",
  "RemoteProtocolError", "LocalProtocolError", "UnsupportedProtocol", "TooManyRedirects",
  "DecodingError", "ProxyError", "InvalidURL", "NetworkError", "ProtocolError", "TransportError",
  "RequestError"]

def ofException (kind message : String) : Answer :=
  if timeouts.contains kind then .timeout
  else if failures.contains kind then .failure kind message
  else .broken ⟨kind, message⟩

end Answer

structure Reply where
  elapse : Number.Double
  answer : Answer
  deriving DecidableEq, Repr

/-- What requests are sent with: the reply to each of them, by its number, and the text that it reads
from the bytes of a body, which the headers decide. -/
structure Transport where
  reply : Nat → Reply
  text : Http.Headers → List UInt8 → List Char

instance : CoeFun Transport fun _ => Nat → Reply := ⟨Transport.reply⟩

namespace Transport

def ofReply (reply : Nat → Reply) : Transport := ⟨reply, Http.bodyText⟩

def ofReplies (first : Reply) (more : List Reply) : Transport :=
  ofReply fun n => (first :: more).getD n (more.getLast?.getD first)

end Transport

structure World where
  clock : Number.Double
  requests : List Request
  events : List Event
  deriving DecidableEq, Repr

namespace World

def start : World := ⟨0, [], []⟩

def tell (w : World) (e : Event) : World := { w with events := w.events ++ [e] }

def send (w : World) (t : Transport) (r : Request) : Answer × World :=
  let reply := t w.requests.length
  (reply.answer, { w with clock := w.clock + reply.elapse, requests := w.requests ++ [r] })

end World

structure Page where
  markup : List Char
  headers : Http.Headers
  url : String
  status : Nat
  deriving DecidableEq, Repr

namespace Page

def blank : Page := ⟨[], .empty, "", 200⟩

def ofResponse (t : Transport) (url : String) (r : Response) : Page :=
  ⟨t.text r.headers r.body, r.headers, url, r.status⟩

def subject (p : Page) (site : String) : Subject := ⟨p.markup, p.headers, site⟩

end Page

inductive FetchError where
  | timeout (seconds : Number.Double)
  | status (code : Int) (reason : String)
  | connection (text : String)
  deriving DecidableEq, Repr

def FetchError.message : FetchError → String
  | .timeout seconds => s!"Request timeout after {seconds.concise} seconds"
  | .status code reason => s!"HTTP {code}: {reason}"
  | .connection text => text

inductive FetchStop where
  | failed (e : FetchError)
  | broken (fault : Fault)
  deriving DecidableEq, Repr

namespace Fetch

def refuse (url text : String) (w : World) : Except FetchStop (String × Response) × World :=
  (.error (.failed (.connection text)), w.tell (.connectionFailed url text))

def receive (url : String) (address : Http.Address) (r : Response) (w : World) :
    Except FetchStop (String × Response) × World :=
  if !address.isAbsolute then
    (.error (.broken ⟨"ValueError", s!"unknown url type: {Text.quoted address.write}"⟩), w)
  else
    match Http.locationProblem? address r.status r.headers with
    | some (.unresolved e) => (.error (.broken ⟨"ValueError", e.message⟩), w)
    | some e => refuse url e.message w
    | none => (.ok (address.write, r), w)

/-- The response to one request, with the address that it was sent to. No request is sent when the
time is over, and a response after it is refused. -/
def get (t : Transport) (s : Settings) (deadline : Number.Double) (url : String) (w : World) :
    Except FetchStop (String × Response) × World :=
  let remaining := deadline - w.clock
  if remaining.atMost 0 then (.error (.failed (.timeout s.timeout)), w)
  else
    match Http.requestAddress url with
    | .error e => refuse url e.message w
    | .ok address =>
      match w.send t ⟨address.write, s.userAgent, s.accept, remaining⟩ with
      | (.timeout, w) =>
        (.error (.failed (.timeout s.timeout)), w.tell (.timedOut url s.timeout))
      | (.failure kind message, w) =>
        (.error (.failed (.connection (if message.isEmpty then kind else message))),
          w.tell (.connectionFailed url message))
      | (.broken fault, w) => (.error (.broken fault), w)
      | (.response r, w) =>
        match receive url address r w with
        | (.error e, w) => (.error e, w)
        | (.ok received, w) =>
          if deadline.less w.clock then (.error (.failed (.timeout s.timeout)), w)
          else (.ok received, w)

def location? (r : Response) : Option String :=
  if Http.isRedirect r.status then r.headers.filled? "location" else none

def follow (t : Transport) (s : Settings) (deadline : Number.Double) (url location : String)
    (status : Nat) (w : World) : Except FetchStop Page × World :=
  match Url.resolve url location with
  | .error e =>
    (.error (.failed (.connection
        s!"Invalid redirect location {Text.quoted location}: {e.message}")),
      w.tell (.redirectRefused url location e.message))
  | .ok target =>
    match get t s deadline target (w.tell (.redirected url target status)) with
    | (.error e, w) => (.error e, w)
    | (.ok (address, r), w) => (.ok (.ofResponse t address r), w)

def settle (t : Transport) (s : Settings) (deadline : Number.Double) (url address : String)
    (r : Response) (w : World) : Except FetchStop Page × World :=
  match location? r with
  | some location => follow t s deadline url location r.status w
  | none =>
    if Http.isSuccess r.status then (.ok (.ofResponse t address r), w)
    else
      (.error (.failed (.status r.status (Http.reason r.status))),
        w.tell (.statusRefused url r.status))

def headerFault? (value : String) : Option Fault :=
  let cs := value.toList
  match cs.findIdx? (128 ≤ ·.toNat) with
  | none => none
  | some i =>
    let run := (cs.drop i).takeWhile (128 ≤ ·.toNat)
    let place := match run with
      | [c] => s!"character '{String.ofList (Text.hexEscape c)}' in position {i}"
      | _ => s!"characters in position {i}-{i + run.length - 1}"
    some ⟨"UnicodeEncodeError",
      s!"'ascii' codec can't encode {place}: ordinal not in range(128)"⟩

end Fetch

def fetch (t : Transport) (s : Settings) (url : String) (w : World) :
    Except FetchStop Page × World :=
  match [s.userAgent, s.accept].findSome? Fetch.headerFault? with
  | some fault => (.error (.broken fault), w)
  | none =>
    let deadline := w.clock + s.timeout
    match Fetch.get t s deadline url (w.tell (.fetchStarted url s.timeout)) with
    | (.error e, w) => (.error e, w)
    | (.ok (address, r), w) => Fetch.settle t s deadline url address r w

end PageAudit
