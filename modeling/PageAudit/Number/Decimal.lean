import PageAudit.Number.Binary
import PageAudit.Text.Kind
/-!
Doubles as decimal text. Written: the fewest digits that read back, or six significant digits.
Read: signed decimals with a point and an exponent, infinities, and the word for no number.
-/
namespace PageAudit.Number

def pow10 : Int → Rat
  | .ofNat n => mkRat (Nat.pow 10 n) 1
  | .negSucc n => mkRat 1 (Nat.pow 10 (n + 1))

def digits (n : Nat) : List Char := Nat.toDigits 10 n

def decimalExponent (v : Rat) : Int :=
  if 1 ≤ v then ((digits v.floor.toNat).length : Int) - 1
  else
    let length : Int := (digits (1 / v).floor.toNat).length
    if v = pow10 (1 - length) then 1 - length else -length

/-- A number of `places` digits nearest to a positive number that reads back as it, with the
power of ten it is to be multiplied by. -/
def withDigits? (v : Rat) (places : Nat) : Option (Nat × Int) :=
  let shift := decimalExponent v - (places : Int) + 1
  let x := v / pow10 shift
  let below := x.floor
  let fits (n : Int) : Bool := nearest (n * pow10 shift) = v
  let candidates := if roundEven x = below then [below, below + 1] else [below + 1, below]
  (candidates.find? fits).map fun n => (n.toNat, shift)

def fewestDigits (v : Rat) : (more places : Nat) → Nat × Int
  | 0, _ => (v.floor.toNat, 0)
  | more + 1, places =>
    match withDigits? v places with
    | some found => found
    | none => fewestDigits v more (places + 1)

def sixDigits (v : Rat) : Nat × Int :=
  let shift := decimalExponent v - 5
  ((roundEven (v / pow10 shift)).toNat, shift)

/-- How digits are laid out: from which exponents on without and with an exponent, and whether a
whole number keeps a point and a zero. -/
structure Layout where
  positionalFrom : Int
  exponentialFrom : Int
  keepsPoint : Bool

def withoutEndZeros (ds : List Char) : List Char :=
  match (ds.reverse.dropWhile (· == '0')).reverse with
  | [] => ['0']
  | kept => kept

def exponentText (e : Int) : List Char :=
  let ds := digits e.natAbs
  'e' :: (if e < 0 then '-' else '+') :: (if ds.length < 2 then '0' :: ds else ds)

def Layout.write (layout : Layout) (n : Nat) (shift : Int) : List Char :=
  let ds := digits n
  let e := shift + ds.length - 1
  let kept := withoutEndZeros ds
  if layout.positionalFrom ≤ e && e < layout.exponentialFrom then
    if e < 0 then "0.".toList ++ List.replicate (-e - 1).toNat '0' ++ kept
    else
      let whole := (kept ++ List.replicate (e.toNat + 1 - kept.length) '0').take (e.toNat + 1)
      let part := kept.drop (e.toNat + 1)
      if part.isEmpty then whole ++ (if layout.keepsPoint then ['.', '0'] else [])
      else whole ++ '.' :: part
  else
    match kept with
    | [] => []
    | [d] => d :: exponentText e
    | d :: more => d :: '.' :: more ++ exponentText e

def readable : Layout := ⟨-4, 16, true⟩

def concise : Layout := ⟨-4, 6, false⟩

def writeWith (choose : Rat → Nat × Int) (layout : Layout) : Double → String
  | .nan => "nan"
  | .infinite negative => if negative then "-inf" else "inf"
  | .negativeZero => String.ofList ('-' :: layout.write 0 0)
  | .finite v =>
    if v = 0 then String.ofList (layout.write 0 0)
    else
      let (n, shift) := choose (size v)
      String.ofList ((if v < 0 then ['-'] else []) ++ layout.write n shift)

def Double.readable (x : Double) : String :=
  writeWith (fun v => fewestDigits v 17 1) Number.readable x

def Double.concise (x : Double) : String := writeWith sixDigits Number.concise x

def ofDigits (negative : Bool) (n : Nat) (e : Int) : Double :=
  let top : Int := e + (digits n).length
  if n = 0 || top < -400 then if negative then .negativeZero else 0
  else if 400 < top then .infinite negative
  else
    let q := (n : Rat) * pow10 e
    if negative then Double.round (-q) true else Double.round q false

def spanDigits (text : List Char) : List Char × List Char :=
  (text.takeWhile Char.isDigit, text.dropWhile Char.isDigit)

def spanSign : List Char → Bool × List Char
  | '-' :: rest => (true, rest)
  | '+' :: rest => (false, rest)
  | rest => (false, rest)

def exponentOf? : List Char → Option Int
  | [] => some 0
  | mark :: rest =>
    if mark == 'e' || mark == 'E' then
      let (negative, ds) := spanSign rest
      if ds.isEmpty || !ds.all Char.isDigit then none
      else
        let n : Int := Text.numeral ds
        some (if negative then -n else n)
    else none

def decimal? (text : List Char) : Option Double :=
  let (negative, rest) := spanSign text
  let word := rest.map Char.toLower
  if word == "inf".toList || word == "infinity".toList then some (.infinite negative)
  else if word == "nan".toList then some .nan
  else
    let (whole, rest) := spanDigits rest
    let (part, rest) := match rest with
      | '.' :: rest => spanDigits rest
      | rest => ([], rest)
    if whole.isEmpty && part.isEmpty then none
    else (exponentOf? rest).map fun e =>
      ofDigits negative (Text.numeral (whole ++ part)) (e - part.length)

def plainDigits (text : List Char) : List Char :=
  text.map fun c => match Text.digitValue? c with
    | some d => Char.ofNat (48 + d)
    | none => c

/-- A text without the underscores that stand between two digits; none if another is left. -/
def ungrouped? : (afterDigit : Bool) → List Char → Option (List Char)
  | _, [] => some []
  | afterDigit, '_' :: c :: rest =>
    if afterDigit && c.isDigit then (ungrouped? true rest).map (c :: ·) else none
  | _, '_' :: [] => none
  | _, c :: rest => (ungrouped? c.isDigit rest).map (c :: ·)

def typedDecimal? (text : String) : Option Double :=
  (ungrouped? false (plainDigits (Text.trim text.toList))).bind decimal?

def typedInteger? (text : String) : Option Int :=
  (ungrouped? false (plainDigits (Text.trim text.toList))).bind fun cs =>
    let (negative, ds) := spanSign cs
    if ds.isEmpty || !ds.all Char.isDigit || 4300 < ds.length then none
    else
      let n : Int := Text.numeral ds
      some (if negative then -n else n)

end PageAudit.Number
