/-!
Binary rounding with 53 significant bits, exactly, on rational numbers. `nearest` is the rule for
every quotient, product and sum that the audit computes; a tie goes to the even neighbour, and no
unit is finer than 2^-1074. Doubles are the numbers so rounded below 2^1024, a negative zero, two
infinities and one value that is no number.
-/
namespace PageAudit.Number

def pow2 : Int → Rat
  | .ofNat n => mkRat (Nat.pow 2 n) 1
  | .negSucc n => mkRat 1 (Nat.pow 2 (n + 1))

def roundEven (q : Rat) : Int :=
  let below := q.floor
  let rest := q - below
  if rest < 1 / 2 then below
  else if 1 / 2 < rest then below + 1
  else if below % 2 == 0 then below else below + 1

def size (q : Rat) : Rat := if q < 0 then -q else q

def exponent (q : Rat) : Int :=
  let guess : Int := (q.num.natAbs.log2 : Int) - (q.den.log2 : Int)
  if pow2 guess ≤ size q then guess else guess - 1

def unit (q : Rat) : Rat := pow2 (max (exponent q - 52) (-1074))

def nearest (q : Rat) : Rat := if q = 0 then 0 else roundEven (q / unit q) * unit q

/-- The integer nearest to a number, a half going up: one half is added, rounded to 53 bits, and
the floor taken. -/
def roundHalfUp (v : Rat) : Int := (nearest (v + 1 / 2)).floor

/-- The quotient of two integers, rounded to 53 bits; zero when the divisor is zero. -/
def ratio (part whole : Int) : Rat := nearest ((part : Rat) / (whole : Rat))

def percent (part whole : Int) : Int :=
  if whole = 0 then 0 else roundHalfUp (nearest (ratio part whole * 100))

def score (passed total : Int) : Int :=
  if total = 0 then 0 else roundHalfUp (ratio (100 * passed) total)

def kilo (n : Nat) : Int := roundHalfUp (ratio n 1024)

def scaled (n : Nat) (factor : Rat) : Rat := nearest (nearest n * nearest factor)

inductive Double where
  | finite (value : Rat)
  | negativeZero
  | infinite (negative : Bool)
  | nan
  deriving DecidableEq, Repr

inductive NumberError where
  | nanToInteger
  | infinityToInteger
  | quotientTooLarge
  deriving DecidableEq, Repr

def NumberError.message : NumberError → String
  | .nanToInteger => "cannot convert float NaN to integer"
  | .infinityToInteger => "cannot convert float infinity to integer"
  | .quotientTooLarge => "integer division result too large for a float"

namespace Double

def round (q : Rat) (negative : Bool) : Double :=
  let v := nearest q
  if v = 0 then if negative then .negativeZero else .finite 0
  else if pow2 1024 ≤ size v then .infinite (v < 0)
  else .finite v

def ofRat (q : Rat) : Double := round q (q < 0)

def ofInt (n : Int) : Double := ofRat n

instance (n : Nat) : OfNat Double n := ⟨ofInt n⟩

def value? : Double → Option Rat
  | .finite v => some v
  | .negativeZero => some 0
  | .infinite _ => none
  | .nan => none

def add : Double → Double → Double
  | .nan, _ => .nan
  | _, .nan => .nan
  | .infinite a, .infinite b => if a == b then .infinite a else .nan
  | .infinite a, _ => .infinite a
  | _, .infinite b => .infinite b
  | .negativeZero, y => y
  | x, .negativeZero => x
  | .finite x, .finite y => ofRat (x + y)

def neg : Double → Double
  | .finite v => if v = 0 then .negativeZero else .finite (-v)
  | .negativeZero => .finite 0
  | .infinite negative => .infinite !negative
  | .nan => .nan

def sub (x y : Double) : Double := x.add y.neg

instance : Add Double := ⟨add⟩

instance : Sub Double := ⟨sub⟩

def less : Double → Double → Bool
  | .nan, _ => false
  | _, .nan => false
  | .infinite a, .infinite b => a && !b
  | .infinite a, _ => a
  | _, .infinite b => !b
  | x, y => x.value?.getD 0 < y.value?.getD 0

def atMost : Double → Double → Bool
  | .nan, _ => false
  | _, .nan => false
  | x, y => !less y x

def roundHalfUp : Double → Except NumberError Int
  | .nan => .error .nanToInteger
  | .infinite _ => .error .infinityToInteger
  | .finite v => .ok (Number.roundHalfUp v)
  | .negativeZero => .ok (Number.roundHalfUp 0)

end Double

def checkedRatio (part whole : Int) : Except NumberError Rat :=
  let v := ratio part whole
  if pow2 1024 ≤ size v then .error .quotientTooLarge else .ok v

def checkedPercent (part whole : Int) : Except NumberError Int :=
  if whole = 0 then .ok 0
  else match checkedRatio part whole with
    | .error e => .error e
    | .ok v => (Double.ofRat (v * 100)).roundHalfUp

def checkedScore (passed total : Int) : Except NumberError Int :=
  if total = 0 then .ok 0
  else match checkedRatio (100 * passed) total with
    | .error e => .error e
    | .ok v => (Double.ofRat v).roundHalfUp

end PageAudit.Number
