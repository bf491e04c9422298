import PageAudit.Rule.Basic
import PageAudit.Number.Binary
/-!
How a report looks: colours and signs of severities, the colour of a score, and the bar that shows
it.
-/
namespace PageAudit

inductive Color where
  | blue
  | green
  | yellow
  | orange
  | red
  deriving DecidableEq, Repr

def Color.name : Color → String
  | .blue => "blue"
  | .green => "green"
  | .yellow => "yellow"
  | .orange => "orange1"
  | .red => "red"

def Severity.color : Severity → Color
  | .info => .blue
  | .warning => .yellow
  | .error => .red

def Severity.icon : Severity → Char
  | .info => 'ℹ'
  | .warning => '⚠'
  | .error => '✗'

def scoreBands : List (Int × Color) := [(80, .green), (60, .yellow), (40, .orange), (0, .red)]

def scoreColor? (score : Int) : Option Color :=
  (scoreBands.find? fun (least, _) => least ≤ score).map Prod.snd

inductive BarError where
  | noColor
  | number (e : Number.NumberError)
  deriving DecidableEq, Repr

structure ScoreBar where
  color : Color
  filled : Nat
  empty : Nat
  score : Int
  passed : Int
  total : Int
  deriving DecidableEq, Repr

structure Span where
  start : Nat
  stop : Nat
  style : String
  deriving DecidableEq, Repr

namespace ScoreBar

def reportWidth : Nat := 25

def filledCells (score width : Int) : Except Number.NumberError Int :=
  match Number.checkedRatio (score * width) 100 with
  | .ok v => (Number.Double.ofRat v).roundHalfUp
  | .error e => .error e

def ofScore (score passed total width : Int) : Except BarError ScoreBar :=
  match scoreColor? score with
  | none => .error .noColor
  | some color =>
    match filledCells score width with
    | .error e => .error (.number e)
    | .ok filled => .ok ⟨color, filled.toNat, (width - filled).toNat, score, passed, total⟩

def pieces (b : ScoreBar) : List (String × List Char) := [
  ("dim", List.replicate b.empty '░'),
  ("bold " ++ b.color.name, s!" {b.score}/100".toList),
  ("dim", s!"  {b.passed} of {b.total} rules passed".toList)]

def text (b : ScoreBar) : List Char :=
  List.replicate b.filled '█' ++ b.pieces.flatMap Prod.snd

def spansFrom : (start : Nat) → List (String × List Char) → List Span
  | _, [] => []
  | start, (style, cs) :: rest =>
    if cs.isEmpty then spansFrom start rest
    else ⟨start, start + cs.length, style⟩ :: spansFrom (start + cs.length) rest

def spans (b : ScoreBar) : List Span := spansFrom b.filled b.pieces

end ScoreBar

end PageAudit
