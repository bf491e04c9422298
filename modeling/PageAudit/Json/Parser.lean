import PageAudit.Json.Printer
/-!
JSON from text. The words for what is no number and for the infinities are read as numbers. A reader
may refuse integers of too many digits, at the place where they stand.
-/
namespace PageAudit.Json

inductive ParseError where
  | malformed
  | digits
  deriving DecidableEq, Repr

def isSpace (c : Char) : Bool := c == ' ' || c == '\t' || c == '\n' || c == '\r'

def skipSpace (text : List Char) : List Char := text.dropWhile isSpace

def hexValue? (c : Char) : Option Nat :=
  if c.isDigit then some (c.toNat - '0'.toNat)
  else if 'a' ≤ c && c ≤ 'f' then some (c.toNat - 'a'.toNat + 10)
  else if 'A' ≤ c && c ≤ 'F' then some (c.toNat - 'A'.toNat + 10)
  else none

def unit? : List Char → Option (Nat × List Char)
  | a :: b :: c :: d :: rest => do
    let a ← hexValue? a
    let b ← hexValue? b
    let c ← hexValue? c
    let d ← hexValue? d
    return (((a * 16 + b) * 16 + c) * 16 + d, rest)
  | _ => none

def lowUnit? : List Char → Option (Nat × List Char)
  | '\\' :: 'u' :: rest => (unit? rest).filter fun (n, _) => 0xDC00 ≤ n && n < 0xE000
  | _ => none

def unitChar? (rest : List Char) : Option (Char × List Char) := do
  let (high, rest) ← unit? rest
  if 0xD800 ≤ high && high < 0xDC00 then
    match lowUnit? rest with
    | some (low, rest) => return (Char.ofNat (0x10000 + (high - 0xD800) * 1024 + (low - 0xDC00)), rest)
    | none => return (Char.ofNat 0xFFFD, rest)
  else if 0xDC00 ≤ high && high < 0xE000 then return (Char.ofNat 0xFFFD, rest)
  else return (Char.ofNat high, rest)

def escape? : List Char → Option (Char × List Char)
  | '"' :: rest => some ('"', rest)
  | '\\' :: rest => some ('\\', rest)
  | '/' :: rest => some ('/', rest)
  | 'b' :: rest => some (Char.ofNat 8, rest)
  | 'f' :: rest => some (Char.ofNat 12, rest)
  | 'n' :: rest => some ('\n', rest)
  | 'r' :: rest => some ('\r', rest)
  | 't' :: rest => some ('\t', rest)
  | 'u' :: rest => unitChar? rest
  | _ => none

/-- The text up to the closing quote, and what follows; `done` holds it backwards. -/
def textAfter : (fuel : Nat) → (done : List Char) → List Char → Option (String × List Char)
  | 0, _, _ => none
  | _ + 1, _, [] => none
  | fuel + 1, done, c :: rest =>
    if c == '"' then some (String.ofList done.reverse, rest)
    else if c == '\\' then
      match escape? rest with
      | some (e, rest) => textAfter fuel (e :: done) rest
      | none => none
    else if c.toNat < 32 then none
    else textAfter fuel (c :: done) rest

def digitsOf (text : List Char) : List Char := text.takeWhile Char.isDigit

def wholePart? (text : List Char) : Option (List Char) :=
  match digitsOf text with
  | [] => none
  | '0' :: _ => some ['0']
  | ds => some ds

def fractionPart : List Char → List Char
  | '.' :: rest => match digitsOf rest with
    | [] => []
    | ds => '.' :: ds
  | _ => []

def exponentPart : List Char → List Char
  | mark :: rest =>
    if mark == 'e' || mark == 'E' then
      let sign := match rest with
        | '+' :: _ => ['+']
        | '-' :: _ => ['-']
        | _ => []
      match digitsOf (rest.drop sign.length) with
      | [] => []
      | ds => mark :: sign ++ ds
    else []
  | [] => []

def numberPart? (text : List Char) : Option (List Char) := do
  let sign := if text.head? == some '-' then ['-'] else []
  let whole ← wholePart? (text.drop sign.length)
  let head := sign ++ whole
  let part := fractionPart (text.drop head.length)
  let head := head ++ part
  return head ++ exponentPart (text.drop head.length)

def words : List (String × Json) := [
  ("null", .null), ("true", .bool true), ("false", .bool false), ("NaN", .number "NaN"),
  ("Infinity", .number "Infinity"), ("-Infinity", .number "-Infinity")]

def isLong (limit : Option Nat) (number : List Char) : Bool :=
  number.all (fun c => c == '-' || c.isDigit) && limit.any (· < number.countP Char.isDigit)

def atom (limit : Option Nat) (text : List Char) : Except ParseError (Json × List Char) :=
  match words.find? fun (word, _) => word.toList.isPrefixOf text with
  | some (word, value) => .ok (value, text.drop word.length)
  | none =>
    match numberPart? text with
    | none => .error .malformed
    | some ds =>
      if isLong limit ds then .error .digits
      else .ok (.number (String.ofList ds), text.drop ds.length)

mutual

def valueAt (limit : Option Nat) : (fuel : Nat) → List Char →
    Except ParseError (Json × List Char)
  | 0, _ => .error .malformed
  | fuel + 1, text =>
    match text with
    | '"' :: rest =>
      match textAfter (rest.length + 1) [] rest with
      | none => .error .malformed
      | some (value, rest) => .ok (.string value, rest)
    | '[' :: rest =>
      match skipSpace rest with
      | ']' :: rest => .ok (.list [], rest)
      | rest => itemsAt limit fuel [] rest
    | '\x7b' :: rest =>
      match skipSpace rest with
      | '\x7d' :: rest => .ok (.object [], rest)
      | rest => fieldsAt limit fuel [] rest
    | text => atom limit text

def itemsAt (limit : Option Nat) : (fuel : Nat) → (done : List Json) → List Char →
    Except ParseError (Json × List Char)
  | 0, _, _ => .error .malformed
  | fuel + 1, done, text =>
    match valueAt limit fuel text with
    | .error e => .error e
    | .ok (value, rest) =>
      match skipSpace rest with
      | ',' :: rest => itemsAt limit fuel (value :: done) (skipSpace rest)
      | ']' :: rest => .ok (.list (value :: done).reverse, rest)
      | _ => .error .malformed

def fieldsAt (limit : Option Nat) : (fuel : Nat) → (done : List (String × Json)) → List Char →
    Except ParseError (Json × List Char)
  | 0, _, _ => .error .malformed
  | fuel + 1, done, text =>
    match text with
    | '"' :: rest =>
      match textAfter (rest.length + 1) [] rest with
      | none => .error .malformed
      | some (name, rest) =>
        match skipSpace rest with
        | ':' :: rest =>
          match valueAt limit fuel (skipSpace rest) with
          | .error e => .error e
          | .ok (value, rest) =>
            match skipSpace rest with
            | ',' :: rest => fieldsAt limit fuel ((name, value) :: done) (skipSpace rest)
            | '\x7d' :: rest => .ok (.object ((name, value) :: done).reverse, rest)
            | _ => .error .malformed
        | _ => .error .malformed
    | _ => .error .malformed

end

def parse (limit : Option Nat) (text : String) : Except ParseError Json :=
  let cs := text.toList
  match valueAt limit (cs.length + 1) (skipSpace cs) with
  | .error e => .error e
  | .ok (value, rest) => if (skipSpace rest).isEmpty then .ok value else .error .malformed

def parse? (text : String) : Option Json := (parse none text).toOption

end PageAudit.Json
