import PageAudit.Http.Message
import PageAudit.Number.Decimal
import PageAudit.Text.Case
import PageAudit.Text.Kind
import PageAudit.Text.Quoted
import PageAudit.Url
/-!
Addresses of requests, as they are sent: scheme and host in lower case, without the default port of
the scheme, with dot segments carried out and unsafe characters percent-encoded. A missing path
stays missing. A response that asks for another request has to point to an address, and is refused
otherwise, whether or not that request is sent.
-/
namespace PageAudit.Http

inductive AddressError where
  | tooLong
  | control (c : Char) (position : Nat)
  | port (text : String)
  | pathStart
  | slashes
  | colon
  | ipv4 (host : String)
  | ipv6 (host : String)
  | hostName (host : String)
  deriving DecidableEq, Repr

def AddressError.message : AddressError → String
  | .tooLong => "URL too long"
  | .control c position =>
    "Invalid non-printable ASCII character in URL, " ++
      s!"{Text.quoted (String.singleton c)} at position {position}."
  | .port text => s!"Invalid port: {Text.quoted text}"
  | .pathStart => "For absolute URLs, path must be empty or begin with '/'"
  | .slashes => "Relative URLs cannot have a path starting with '//'"
  | .colon => "Relative URLs cannot have a path starting with ':'"
  | .ipv4 host => s!"Invalid IPv4 address: {Text.quoted host}"
  | .ipv6 host => s!"Invalid IPv6 address: {Text.quoted host}"
  | .hostName host => s!"Invalid IDNA hostname: {Text.quoted host}"

structure Address where
  scheme : List Char
  user : List Char
  host : List Char
  port : Option Int
  path : List Char
  query : Option (List Char)
  fragment : Option (List Char)
  deriving DecidableEq, Repr

def maxAddress : Nat := 65536

def isUnreserved (c : Char) : Bool :=
  c.isAlphanum || c == '-' || c == '.' || c == '_' || c == '~'

def standsBut (unsafeChars : String) (c : Char) : Bool :=
  isUnreserved c || (32 ≤ c.toNat && c.toNat < 127 && !unsafeChars.toList.contains c)

def fragmentSafe : Char → Bool := standsBut " \"<>`"

def querySafe : Char → Bool := standsBut " \"#<>"

def pathSafe : Char → Bool := standsBut " \"#<>?`\x7b\x7d"

def userSafe : Char → Bool := standsBut " \"#<>?`\x7b\x7d/;=@[\\]^|"

def hostSafe (c : Char) : Bool :=
  isUnreserved c || "!$&'()*+,;=\"`\x7b\x7d%|\\".toList.contains c

def percentEncoded (c : Char) : List Char :=
  (String.singleton c).toUTF8.toList.flatMap fun b =>
    '%' :: (Text.hex 2 b.toNat).map Char.toUpper

def encodeBut (safe : Char → Bool) : List Char → List Char
  | [] => []
  | '%' :: a :: b :: rest =>
    if Url.isHex a && Url.isHex b then '%' :: a :: b :: encodeBut safe rest
    else (if safe '%' then ['%'] else percentEncoded '%') ++ encodeBut safe (a :: b :: rest)
  | c :: rest => (if safe c then [c] else percentEncoded c) ++ encodeBut safe rest

def looksIPv4 (host : List Char) : Bool :=
  let afterNumber (starts : List (List Char)) : List (List Char) :=
    starts.flatMap fun text =>
      (List.range (text.takeWhile Char.isDigit).length).map fun i => text.drop (i + 1)
  let afterAny (starts : List (List Char)) : List (List Char) :=
    starts.filterMap fun text => if text.isEmpty then none else some (text.drop 1)
  let step (starts : List (List Char)) := (afterAny (afterNumber starts)).eraseDups
  (afterNumber (step (step (step [host])))).any List.isEmpty

def threshold (k bias : Nat) : Nat := if k ≤ bias + 1 then 1 else if bias + 26 ≤ k then 26 else k - bias

def baseDigit (n : Nat) : Char := Char.ofNat (if n < 26 then 97 + n else 22 + n)

def distanceDigits : (fuel q k bias : Nat) → List Char
  | 0, _, _, _ => []
  | fuel + 1, q, k, bias =>
    let t := threshold k bias
    if q < t then [baseDigit q]
    else baseDigit (t + (q - t) % (36 - t)) :: distanceDigits fuel ((q - t) / (36 - t)) (k + 36) bias

def reduceBias : (fuel delta k : Nat) → Nat
  | 0, _, k => k
  | fuel + 1, delta, k =>
    if 455 < delta then reduceBias fuel (delta / 35) (k + 36) else k + 36 * delta / (delta + 38)

def adapt (delta count : Nat) (first : Bool) : Nat :=
  let delta := if first then delta / 700 else delta / 2
  reduceBias 64 (delta + delta / count) 0

/-- The state of the encoding: the digits backwards, the distance, the bias and how many characters
are written. -/
structure Writing where
  digits : List Char
  delta : Nat
  bias : Nat
  written : Nat

def writeChar (label : List Char) (plain n : Nat) (w : Writing) : Writing :=
  label.foldl (fun w c =>
    if c.toNat < n then { w with delta := w.delta + 1 }
    else if c.toNat == n then
      let ds := distanceDigits 64 w.delta 36 w.bias
      ⟨ds.reverse ++ w.digits, 0, adapt w.delta (w.written + 1) (w.written == plain), w.written + 1⟩
    else w) w

def asciiLabel (label : List Char) : List Char :=
  let basic := label.filter (·.toNat < 128)
  let others := ((label.filter (128 ≤ ·.toNat)).map Char.toNat).eraseDups.mergeSort
  let plain := basic.length
  let last := others.foldl (fun (w, n) c =>
    let w := { w with delta := w.delta + (c - n) * (w.written + 1) }
    let w := writeChar label plain c w
    ({ w with delta := w.delta + 1 }, c + 1)) ((⟨[], 0, 72, plain⟩ : Writing), 128)
  let head := if basic.isEmpty then [] else basic ++ ['-']
  "xn--".toList ++ head ++ last.1.digits.reverse

def separatesLabels (c : Char) : Bool :=
  c == '.' || c.toNat == 0x3002 || c.toNat == 0xFF0E || c.toNat == 0xFF61

/-- A host name with characters outside ASCII, in ASCII. Labels of other characters than letters,
digits and inner hyphens are refused. -/
def internationalHost? (host : List Char) : Option (List Char) :=
  let labels := host.splitOnP separatesLabels
  let fine (label : List Char) : Bool :=
    !label.isEmpty && label.head? != some '-' && label.getLast? != some '-' &&
      label.all fun c => c == '-' || (Text.isWord c && c != '_')
  let closed := labels.getLast? == some []
  let labels := if closed then labels.dropLast else labels
  if labels.all fine then
    let written := labels.map fun label =>
      if label.all (·.toNat < 128) then label else asciiLabel label
    if written.all (·.length ≤ 63) then
      some (['.'].intercalate written ++ if closed then ['.'] else [])
    else none
  else none

def encodeHost (host : List Char) : Except AddressError (List Char) :=
  if host.isEmpty then .ok []
  else if looksIPv4 host then
    if Url.isIPv4 host then .ok host else .error (.ipv4 (String.ofList host))
  else if host.head? == some '[' && host.getLast? == some ']' then
    let inner := (host.drop 1).dropLast
    if Url.isIPv6 inner then .ok inner else .error (.ipv6 (String.ofList host))
  else if host.all (·.toNat < 128) then .ok (encodeBut hostSafe (host.map Char.toLower))
  else
    match internationalHost? (Text.lowercaseAfter false host) with
    | some encoded => .ok encoded
    | none => .error (.hostName (String.ofList host))

def defaultPorts : List (String × Int) :=
  [("ftp", 21), ("http", 80), ("https", 443), ("ws", 80), ("wss", 443)]

def readPort (scheme text : List Char) : Except AddressError (Option Int) :=
  if text.isEmpty then .ok none
  else
    match Number.typedInteger? (String.ofList text) with
    | none => .error (.port (String.ofList text))
    | some port =>
      .ok (if defaultPorts.lookup (String.ofList scheme) == some port then none else some port)

/-- The segments of a path after dot segments are carried out; `done` holds them backwards. -/
def walkSegments : (done : List (List Char)) → List (List Char) → List (List Char)
  | done, [] => done.reverse
  | done, segment :: rest =>
    if segment == ['.'] then walkSegments done rest
    else if segment == ['.', '.'] then
      walkSegments (if done == [[]] then done else done.drop 1) rest
    else walkSegments (segment :: done) rest

def normalPath (path : List Char) : List Char :=
  let segments := path.splitOn '/'
  if segments.contains ['.'] || segments.contains ['.', '.'] then
    ['/'].intercalate (walkSegments [] segments)
  else path

def splitAuthority (authority : List Char) : List Char × List Char × List Char :=
  let hasUser := authority.contains '@'
  let location := (authority.reverse.takeWhile (· != '@')).reverse
  let user := if hasUser then authority.take (authority.length - location.length - 1) else []
  let bracketed := match location with
    | '[' :: _ => location.contains ']'
    | _ => false
  let host :=
    if bracketed then (location.reverse.dropWhile (· != ']')).reverse
    else location.takeWhile (· != ':')
  let rest := location.drop host.length
  (user, host, if rest.head? == some ':' then rest.drop 1 else rest)

def splitScheme (text : List Char) : List Char × List Char :=
  let head := text.takeWhile (· != ':')
  let rest := text.dropWhile (· != ':')
  let fits := match head with
    | [] => true
    | c :: _ =>
      c.isAlpha && head.all fun c => c.isAlphanum || c == '+' || c == '.' || c == '-'
  if fits && !rest.isEmpty then (head, rest.drop 1) else ([], text)

def checkPath (path : List Char) (hasScheme hasAuthority : Bool) : Except AddressError Unit :=
  if hasAuthority then
    if path.isEmpty || path.head? == some '/' then .ok () else .error .pathStart
  else if hasScheme then .ok ()
  else if path.take 2 == ['/', '/'] then .error .slashes
  else if path.head? == some ':' then .error .colon
  else .ok ()

def checkText (text : List Char) : Except AddressError Unit :=
  if maxAddress < text.length then .error .tooLong
  else
    match text.findIdx? fun c => c.toNat < 32 || c.toNat == 127 with
    | some i => .error (.control (text.getD i ' ') i)
    | none => .ok ()

def after? (mark : Char) (text : List Char) : Option (List Char) :=
  if text.contains mark then some ((text.dropWhile (· != mark)).drop 1) else none

namespace Address

def ofText (text : String) : Except AddressError Address := do
  let cs := text.toList
  checkText cs
  let (scheme, rest) := splitScheme cs
  let (authority, rest) := match rest with
    | '/' :: '/' :: rest =>
      let ends (c : Char) := c == '/' || c == '?' || c == '#'
      (rest.takeWhile (!ends ·), rest.dropWhile (!ends ·))
    | rest => ([], rest)
  let fragment := after? '#' rest
  let rest := rest.takeWhile (· != '#')
  let query := after? '?' rest
  let path := rest.takeWhile (· != '?')
  let (user, host, port) := splitAuthority authority
  let user := encodeBut userSafe user
  let host ← encodeHost host
  let port ← readPort scheme port
  let hasAuthority := !user.isEmpty || !host.isEmpty || port.isSome
  checkPath path (!scheme.isEmpty) hasAuthority
  let path := if !scheme.isEmpty || hasAuthority then normalPath path else path
  return ⟨scheme.map Char.toLower, user, host, port, encodeBut pathSafe path,
    query.map (encodeBut querySafe), fragment.map (encodeBut fragmentSafe)⟩

def isAbsolute (a : Address) : Bool := !a.scheme.isEmpty && !a.host.isEmpty

/-- The address that a request for another one goes to: one that is not absolute keeps only its path
and query, below the root. -/
def target (a : Address) : Address :=
  if a.isAbsolute then a
  else ⟨[], [], [], none, '/' :: a.path.dropWhile (· == '/'), a.query, none⟩

def authority (a : Address) : List Char :=
  (if a.user.isEmpty then [] else a.user ++ ['@']) ++
    (if a.host.contains ':' then '[' :: a.host ++ [']'] else a.host) ++
    match a.port with
    | some port => ':' :: (toString port).toList
    | none => []

def write (a : Address) : String :=
  String.ofList <|
    (if a.scheme.isEmpty then [] else a.scheme ++ [':']) ++
      (if a.authority.isEmpty then [] else '/' :: '/' :: a.authority) ++ a.path ++
      (match a.query with
        | some query => '?' :: query
        | none => []) ++
      match a.fragment with
      | some fragment => '#' :: fragment
      | none => []

end Address

def requestAddress (url : String) : Except AddressError Address :=
  match Address.ofText url with
  | .ok a => .ok a.target
  | .error e => .error e

inductive LocationError where
  | location (e : AddressError)
  | address (e : AddressError)
  | unresolved (e : Url.UrlError)
  deriving DecidableEq, Repr

def LocationError.message : LocationError → String
  | .location e => s!"Invalid URL in location header: {e.message}."
  | .address e => e.message
  | .unresolved e => e.message

def redirecting : List Nat := [301, 302, 303, 307, 308]

def Address.withHostOf (base a : Address) : Except AddressError Address :=
  if a.scheme.isEmpty || !a.host.isEmpty then .ok a
  else
    match checkPath a.path true true with
    | .ok () => .ok { a with host := base.host }
    | .error e => .error e

def locate (base : Address) (location : String) : Except LocationError Address :=
  match Address.ofText location with
  | .error e => .error (.location e)
  | .ok a =>
    match base.withHostOf a with
    | .error e => .error (.address e)
    | .ok a =>
      if a.isAbsolute then .ok a
      else
        match Url.resolve base.write a.write with
        | .error e => .error (.unresolved e)
        | .ok text =>
          match Address.ofText text with
          | .error e => .error (.address e)
          | .ok a => .ok a

def locationProblem? (base : Address) (status : Nat) (headers : Headers) : Option LocationError :=
  if redirecting.contains status then
    match headers.get? "location" with
    | none => none
    | some location =>
      match locate base location with
      | .ok _ => none
      | .error e => some e
  else none

end PageAudit.Http
