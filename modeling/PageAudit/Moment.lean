/-!
Moments of the calendar and their time stamps. Days are counted from the first of March of a year
zero, so that a leap day ends its year.
-/
namespace PageAudit

structure Moment where
  year : Nat
  month : Nat
  day : Nat
  hour : Nat
  minute : Nat
  second : Nat
  micro : Nat
  deriving DecidableEq, Repr

inductive MomentError where
  | outOfRange
  deriving DecidableEq, Repr

def MomentError.message : MomentError → String
  | .outOfRange => "date value out of range"

namespace Moment

def dayNumber (year month day : Nat) : Nat :=
  let y := if month ≤ 2 then year - 1 else year
  let fromMarch := (month + 9) % 12
  365 * y + y / 4 - y / 100 + y / 400 + (153 * fromMarch + 2) / 5 + (day - 1)

def ofDayNumber (n : Nat) : Nat × Nat × Nat :=
  let cycle := n / 146097
  let inCycle := n % 146097
  let yearOfCycle := (inCycle - inCycle / 1460 + inCycle / 36524 - inCycle / 146096) / 365
  let inYear := inCycle - (365 * yearOfCycle + yearOfCycle / 4 - yearOfCycle / 100)
  let fromMarch := (5 * inYear + 2) / 153
  let day := inYear - (153 * fromMarch + 2) / 5 + 1
  let month := if fromMarch < 10 then fromMarch + 3 else fromMarch - 9
  let year := 400 * cycle + yearOfCycle
  (if month ≤ 2 then year + 1 else year, month, day)

def minutes (m : Moment) : Nat := dayNumber m.year m.month m.day * 1440 + m.hour * 60 + m.minute

def firstMinute : Nat := dayNumber 1 1 1 * 1440

def endMinute : Nat := dayNumber 10000 1 1 * 1440

def toUniversal (m : Moment) (offset : Int) : Except MomentError Moment :=
  let shifted := (m.minutes : Int) - offset
  if shifted < firstMinute || endMinute ≤ shifted then .error .outOfRange
  else
    let n := shifted.toNat
    let (year, month, day) := ofDayNumber (n / 1440)
    .ok { m with year, month, day, hour := n % 1440 / 60, minute := n % 60 }

def padded (width n : Nat) : String :=
  let ds := Nat.toDigits 10 n
  String.ofList (List.replicate (width - ds.length) '0' ++ ds)

def stamp (m : Moment) : String :=
  s!"{padded 4 m.year}-{padded 2 m.month}-{padded 2 m.day}T{padded 2 m.hour}:" ++
    s!"{padded 2 m.minute}:{padded 2 m.second}.{padded 3 (m.micro / 1000)}Z"

def stampAt (m : Moment) (offset : Int) : Except MomentError String :=
  match m.toUniversal offset with
  | .ok u => .ok u.stamp
  | .error e => .error e

end Moment

end PageAudit
