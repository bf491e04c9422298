import PageAudit.Text.Kind
/-!
Responses: header fields in order, status codes, and bodies as text. Names of fields are kept in
lower case, and the values of a repeated name are joined.
-/
namespace PageAudit.Http

def fieldName (name : String) : String := String.ofList (name.toList.map Char.toLower)

structure Headers where
  fields : List (String × String)
  deriving DecidableEq, Repr

namespace Headers

def empty : Headers := ⟨[]⟩

def ofList (fields : List (String × String)) : Headers :=
  ⟨fields.map fun (name, value) => (fieldName name, value)⟩

def values (h : Headers) (name : String) : List String :=
  (h.fields.filter fun field => field.1 == fieldName name).map Prod.snd

def get? (h : Headers) (name : String) : Option String :=
  match h.values name with
  | [] => none
  | values => some (", ".intercalate values)

def filled? (h : Headers) (name : String) : Option String :=
  (h.get? name).filter (!·.isEmpty)

def contains (h : Headers) (name : String) : Bool := !(h.values name).isEmpty

def push (h : Headers) (name value : String) : Headers := ⟨h.fields ++ [(fieldName name, value)]⟩

end Headers

def reasons : List (Nat × String) := [
  (100, "Continue"), (101, "Switching Protocols"), (102, "Processing"), (103, "Early Hints"),
  (200, "OK"), (201, "Created"), (202, "Accepted"), (203, "Non-Authoritative Information"),
  (204, "No Content"), (205, "Reset Content"), (206, "Partial Content"), (207, "Multi-Status"),
  (208, "Already Reported"), (226, "IM Used"),
  (300, "Multiple Choices"), (301, "Moved Permanently"), (302, "Found"), (303, "See Other"),
  (304, "Not Modified"), (305, "Use Proxy"), (307, "Temporary Redirect"),
  (308, "Permanent Redirect"),
  (400, "Bad Request"), (401, "Unauthorized"), (402, "Payment Required"), (403, "Forbidden"),
  (404, "Not Found"), (405, "Method Not Allowed"), (406, "Not Acceptable"),
  (407, "Proxy Authentication Required"), (408, "Request Timeout"), (409, "Conflict"),
  (410, "Gone"), (411, "Length Required"), (412, "Precondition Failed"),
  (413, "Request Entity Too Large"), (414, "Request-URI Too Long"),
  (415, "Unsupported Media Type"), (416, "Requested Range Not Satisfiable"),
  (417, "Expectation Failed"), (418, "I'm a teapot"), (421, "Misdirected Request"),
  (422, "Unprocessable Entity"), (423, "Locked"), (424, "Failed Dependency"), (425, "Too Early"),
  (426, "Upgrade Required"), (428, "Precondition Required"), (429, "Too Many Requests"),
  (431, "Request Header Fields Too Large"), (451, "Unavailable For Legal Reasons"),
  (500, "Internal Server Error"), (501, "Not Implemented"), (502, "Bad Gateway"),
  (503, "Service Unavailable"), (504, "Gateway Timeout"), (505, "HTTP Version Not Supported"),
  (506, "Variant Also Negotiates"), (507, "Insufficient Storage"), (508, "Loop Detected"),
  (510, "Not Extended"), (511, "Network Authentication Required")]

def reason (status : Nat) : String := (reasons.lookup status).getD ""

def isSuccess (status : Nat) : Bool := 200 ≤ status && status < 300

def isRedirect (status : Nat) : Bool := 300 ≤ status && status < 400

inductive Encoding where
  | utf8
  | latin1
  | ascii
  deriving DecidableEq, Repr

namespace Encoding

def names : List (String × Encoding) := [
  ("utf-8", .utf8), ("utf8", .utf8), ("u8", .utf8), ("utf", .utf8), ("cp65001", .utf8),
  ("iso-8859-1", .latin1), ("iso8859-1", .latin1), ("iso8859", .latin1), ("8859", .latin1),
  ("latin-1", .latin1), ("latin1", .latin1), ("latin", .latin1), ("l1", .latin1),
  ("cp819", .latin1), ("ibm819", .latin1), ("iso-ir-100", .latin1), ("csisolatin1", .latin1),
  ("ascii", .ascii), ("us-ascii", .ascii), ("646", .ascii), ("iso646-us", .ascii),
  ("us", .ascii), ("cp367", .ascii), ("ibm367", .ascii), ("iso-ir-6", .ascii)]

def ofName? (name : List Char) : Option Encoding :=
  names.lookup (String.ofList (name.map fun c => if c == '_' || c == ' ' then '-' else c.toLower))

end Encoding

def unquoted (text : List Char) : List Char :=
  match text with
  | '"' :: rest =>
    if rest.getLast? == some '"' then rest.dropLast else text
  | _ => text

def parameter? (contentType : String) (name : String) : Option (List Char) :=
  let fields := (contentType.toList.splitOn ';').drop 1
  let read (field : List Char) : Option (List Char) :=
    let key := (Text.trim (field.takeWhile (· != '='))).map Char.toLower
    if String.ofList key == name && field.contains '=' then
      some (unquoted (Text.trim ((field.dropWhile (· != '=')).drop 1)))
    else none
  fields.findSome? read

def encodingOf (headers : Headers) : Encoding :=
  (((headers.get? "content-type").bind fun t => parameter? t "charset").bind
    Encoding.ofName?).getD .utf8

def isTail (low high : Nat) (b : UInt8) : Bool := low ≤ b.toNat && b.toNat ≤ high

def tails? (b : UInt8) : Option (Nat × Nat × Nat) :=
  let n := b.toNat
  if 0xC2 ≤ n && n ≤ 0xDF then some (1, 0x80, 0xBF)
  else if n == 0xE0 then some (2, 0xA0, 0xBF)
  else if n == 0xED then some (2, 0x80, 0x9F)
  else if 0xE1 ≤ n && n ≤ 0xEF then some (2, 0x80, 0xBF)
  else if n == 0xF0 then some (3, 0x90, 0xBF)
  else if 0xF1 ≤ n && n ≤ 0xF3 then some (3, 0x80, 0xBF)
  else if n == 0xF4 then some (3, 0x80, 0x8F)
  else none

/-- A character that has begun: its value so far, how many bytes are missing, and the bounds of the
next one. -/
structure Pending where
  value : Nat
  missing : Nat
  low : Nat
  high : Nat
  deriving DecidableEq, Repr

def replacement : Char := Char.ofNat 0xFFFD

def begin (done : List Char) (b : UInt8) : List Char × Option Pending :=
  if b.toNat < 0x80 then (Char.ofNat b.toNat :: done, none)
  else
    match tails? b with
    | some (missing, low, high) =>
      let bits := b.toNat % (if missing = 1 then 32 else if missing = 2 then 16 else 8)
      (done, some ⟨bits, missing, low, high⟩)
    | none => (replacement :: done, none)

/-- The state after one more byte. The longest start of a character that cannot go on is replaced by
one character. -/
def readByte : List Char × Option Pending → UInt8 → List Char × Option Pending
  | (done, none), b => begin done b
  | (done, some p), b =>
    if isTail p.low p.high b then
      let value := p.value * 64 + b.toNat % 64
      if p.missing ≤ 1 then (Char.ofNat value :: done, none)
      else (done, some ⟨value, p.missing - 1, 0x80, 0xBF⟩)
    else begin (replacement :: done) b

def utf8Text (bytes : List UInt8) : List Char :=
  match bytes.foldl readByte ([], none) with
  | (done, none) => done.reverse
  | (done, some _) => (replacement :: done).reverse

def Encoding.decode (bytes : List UInt8) : Encoding → List Char
  | .utf8 => utf8Text bytes
  | .latin1 => bytes.map fun b => Char.ofNat b.toNat
  | .ascii => bytes.map fun b => if b.toNat < 0x80 then Char.ofNat b.toNat else replacement

def bodyText (headers : Headers) (bytes : List UInt8) : List Char :=
  (encodingOf headers).decode bytes

end PageAudit.Http
