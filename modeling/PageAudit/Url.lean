import PageAudit.Text.Case
import PageAudit.Text.Kind
import PageAudit.Text.Quoted
/-!
Addresses in parts, and relative to a base address. Any text has parts; only brackets of the network
location that are not around the whole host or do not hold a numeric address, and characters there
that stand for reserved ones, are refused.
-/
namespace PageAudit.Url

def isHex (c : Char) : Bool := c.isDigit || ('a' ≤ c && c ≤ 'f') || ('A' ≤ c && c ≤ 'F')

def isIPv4 (text : List Char) : Bool :=
  let parts := text.splitOn '.'
  parts.length == 4 && parts.all fun part =>
    !part.isEmpty && part.length ≤ 3 && part.all Char.isDigit &&
      (part.length == 1 || part.head? != some '0') && Text.numeral part < 256

def isGroup (text : List Char) : Bool := text.length ≤ 4 && text.all isHex

def areGroups (parts : List (List Char)) : Bool :=
  let inner := (parts.drop 1).dropLast
  match inner.countP List.isEmpty with
  | 0 => parts.length == 8 && parts.all fun part => !part.isEmpty && isGroup part
  | 1 =>
    let skip := 1 + (inner.takeWhile (!·.isEmpty)).length
    let orNone (groups : List (List Char)) := if groups == [[]] then [] else groups
    let groups := orNone (parts.take skip) ++ orNone (parts.drop (skip + 1))
    groups.all (fun part => !part.isEmpty && isGroup part) && groups.length < 8
  | _ => false

/-- Whether a text is an address of eight groups; the last two may be four decimal numbers, and a
zone may follow. -/
def isIPv6 (text : List Char) : Bool :=
  let address := text.takeWhile (· != '%')
  let zone := text.dropWhile (· != '%')
  let parts := address.splitOn ':'
  let last := parts.getLast?.getD []
  let zoneOk := zone.isEmpty || (1 < zone.length && !(zone.drop 1).contains '%')
  let parts? :=
    if last.contains '.' then
      if isIPv4 last then some (parts.dropLast ++ [['0'], ['0']]) else none
    else some parts
  zoneOk && 3 ≤ parts.length && match parts? with
    | some parts => parts.length ≤ 9 && areGroups parts
    | none => false

inductive UrlError where
  | misplacedBracket
  | notNumeric (host : List Char)
  | fourNumbers
  | badVersion
  | disguised (netloc : List Char)
  deriving DecidableEq, Repr

def UrlError.message : UrlError → String
  | .misplacedBracket => "Invalid IPv6 URL"
  | .notNumeric host =>
    s!"{Text.quoted (String.ofList host)} does not appear to be an IPv4 or IPv6 address"
  | .fourNumbers => "An IPv4 address cannot be in brackets"
  | .badVersion => "IPvFuture address is invalid"
  | .disguised netloc =>
    s!"netloc '{String.ofList netloc}' contains invalid characters under NFKC normalization"

structure Parts where
  scheme : List Char
  netloc : List Char
  path : List Char
  params : List Char
  query : List Char
  fragment : List Char
  deriving DecidableEq, Repr

def cut (sep : Char) (text : List Char) : List Char × List Char :=
  (text.takeWhile (· != sep), (text.dropWhile (· != sep)).drop 1)

/-- A text up to the last occurrence of a character, and what follows it; all of it follows where
the character is missing. -/
def cutLast (sep : Char) (text : List Char) : List Char × List Char :=
  ((text.reverse.dropWhile (· != sep)).drop 1 |>.reverse, (text.reverse.takeWhile (· != sep)).reverse)

def isSchemeChar (c : Char) : Bool := c.isAlphanum || c == '+' || c == '-' || c == '.'

def scheme? (text : List Char) : Option (List Char × List Char) :=
  let (head, rest) := cut ':' text
  match head with
  | [] => none
  | first :: _ =>
    if text.contains ':' && first.isAlpha && head.all isSchemeChar then
      some (head.map Char.toLower, rest)
    else none

def endsNetloc (c : Char) : Bool := c == '/' || c == '?' || c == '#'

def disguises : List Nat := [0x2047, 0x2048, 0x2049, 0x2100, 0x2101, 0x2105, 0x2106, 0x2A74,
  0xFE13, 0xFE16, 0xFE55, 0xFE56, 0xFE5F, 0xFE6B, 0xFF03, 0xFF0F, 0xFF1A, 0xFF1F, 0xFF20]

def isVersioned (text : List Char) : Bool :=
  let version := (text.drop 1).takeWhile isHex
  match (text.drop 1).dropWhile isHex with
  | '.' :: _ :: _ => !version.isEmpty
  | _ => false

def bracketProblem? (host : List Char) : Option UrlError :=
  if host.head? == some 'v' then if isVersioned host then none else some .badVersion
  else if isIPv4 host then some .fourNumbers
  else if isIPv6 host then none
  else some (.notNumeric host)

def locationProblem? (location : List Char) : Option UrlError :=
  if location.contains '[' then
    let (before, rest) := cut '[' location
    let (host, after) := cut ']' rest
    if before.isEmpty && (after.isEmpty || after.head? == some ':') then bracketProblem? host
    else some .misplacedBracket
  else bracketProblem? (cut ':' location).1

/-- What is wrong with the brackets of a network location, if anything is. One with brackets of
both kinds is looked at without the user. -/
def bracketsProblem? (netloc : List Char) : Option UrlError :=
  if netloc.contains '[' != netloc.contains ']' then some .misplacedBracket
  else if netloc.contains '[' then locationProblem? (cutLast '@' netloc).2
  else none

def checkNetloc (netloc : List Char) : Except UrlError Unit :=
  match bracketsProblem? netloc with
  | some e => .error e
  | none =>
    if netloc.any fun c => disguises.contains c.toNat then .error (.disguised netloc)
    else .ok ()

def withParams : List String := ["", "ftp", "hdl", "prospero", "http", "https", "shttp", "rtsp",
  "rtspu", "sip", "sips", "mms", "sftp", "tel"]

def cutParams (path : List Char) : List Char × List Char :=
  let segment := (cutLast '/' path).2
  if segment.contains ';' then
    let (kept, params) := cut ';' segment
    (path.take (path.length - segment.length) ++ kept, params)
  else (path, [])

/-- The parts of an address without the blanks and control characters before it; `base` is the scheme
of one that has none. -/
def Parts.read (base : List Char) (text : List Char) : Except UrlError Parts := do
  let text := (text.dropWhile fun c => c.toNat ≤ 32).filter fun c =>
    !(c == '\t' || c == '\n' || c == '\r')
  let (scheme, rest) := (scheme? text).getD (base, text)
  let (netloc, rest) := match rest with
    | '/' :: '/' :: rest => (rest.takeWhile (!endsNetloc ·), rest.dropWhile (!endsNetloc ·))
    | rest => ([], rest)
  checkNetloc netloc
  let (rest, fragment) := cut '#' rest
  let (path, query) := cut '?' rest
  let (path, params) :=
    if withParams.contains (String.ofList scheme) then cutParams path else (path, [])
  return ⟨scheme, netloc, path, params, query, fragment⟩

def parts (text : String) : Except UrlError Parts := Parts.read [] text.toList

def Parts.host? (p : Parts) : Option String :=
  let location := (cutLast '@' p.netloc).2
  let name :=
    if location.contains '[' then (cut ']' (cut '[' location).2).1 else (cut ':' location).1
  if name.isEmpty then none
  else
    let zone := name.dropWhile (· != '%')
    let main := name.takeWhile (· != '%')
    some (String.ofList (Text.lowercaseAfter false main ++ zone))

def Parts.write (p : Parts) (hasNetloc : Bool) : List Char :=
  let path := if p.params.isEmpty then p.path else p.path ++ ';' :: p.params
  let located :=
    if !p.netloc.isEmpty || (!p.scheme.isEmpty && hasNetloc && path.take 2 != ['/', '/']) then
      '/' :: '/' :: p.netloc ++
        (if path.isEmpty || path.head? == some '/' then path else '/' :: path)
    else path
  (if p.scheme.isEmpty then located else p.scheme ++ ':' :: located) ++
    (if p.query.isEmpty then [] else '?' :: p.query) ++
    (if p.fragment.isEmpty then [] else '#' :: p.fragment)

def relativeSchemes : List String := ["", "ftp", "http", "gopher", "nntp", "imap", "wais", "file",
  "https", "shttp", "mms", "prospero", "rtsp", "rtspu", "sftp", "svn", "svn+ssh", "ws", "wss"]

def locatedSchemes : List String := ["", "ftp", "http", "gopher", "nntp", "telnet", "imap", "wais",
  "file", "mms", "https", "shttp", "snews", "prospero", "rtsp", "rtspu", "rsync", "svn", "svn+ssh",
  "sftp", "nfs", "git", "git+ssh", "ws", "wss"]

def isLocated (scheme : List Char) : Bool := locatedSchemes.contains (String.ofList scheme)

def walk : (done : List (List Char)) → List (List Char) → List (List Char)
  | done, [] => done.reverse
  | done, segment :: rest =>
    if segment == ['.', '.'] then walk (done.drop 1) rest
    else if segment == ['.'] then walk done rest
    else walk (segment :: done) rest

def withoutInnerBlanks (segments : List (List Char)) : List (List Char) :=
  match segments with
  | [] => []
  | first :: rest =>
    match rest.reverse with
    | [] => [first]
    | last :: inner => first :: (inner.reverse.filter (!·.isEmpty)) ++ [last]

def resolvePath (base path : List Char) : List Char :=
  let parts := base.splitOn '/'
  let parts := if parts.getLast? == some [] then parts else parts.dropLast
  let segments :=
    if path.head? == some '/' then path.splitOn '/'
    else withoutInnerBlanks (parts ++ path.splitOn '/')
  let walked := walk [] segments
  let walked :=
    if segments.getLast? == some ['.'] || segments.getLast? == some ['.', '.'] then walked ++ [[]]
    else walked
  let joined := ['/'].intercalate walked
  if joined.isEmpty then ['/'] else joined

/-- An address relative to a base address. An empty one is the base, one of another scheme stands
for itself, and one without a path takes the path of the base. -/
def resolve (base target : String) : Except UrlError String := do
  if base.isEmpty then return target
  if target.isEmpty then return base
  let b ← Parts.read [] base.toList
  let t ← Parts.read b.scheme target.toList
  if t.scheme != b.scheme || !relativeSchemes.contains (String.ofList t.scheme) then return target
  let located := isLocated t.scheme
  if located && !t.netloc.isEmpty then return String.ofList (t.write located)
  let t := if located then { t with netloc := b.netloc } else t
  if t.path.isEmpty && t.params.isEmpty then
    let query := if t.query.isEmpty then b.query else t.query
    return String.ofList ({ t with path := b.path, params := b.params, query }.write located)
  return String.ofList ({ t with path := resolvePath b.path t.path }.write located)

end PageAudit.Url
