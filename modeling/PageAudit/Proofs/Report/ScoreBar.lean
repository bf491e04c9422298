import PageAudit.Proofs.Analysis
import PageAudit.Proofs.Number.Hundredths
import PageAudit.Report.Style
import PageAudit.Rule.Catalog
/-!
The bar of a score. Every score that an analysis can have is one from nothing to a hundred, has a
colour, and fills its part of the cells, a half going up; at no width up to 2^40 does rounding make
it more or less.
-/
namespace PageAudit

/-- An analysis of rules that were judged, or one of a page that could not be reached. -/
inductive Analysis.Made : Analysis → Prop
  | judged {site now : String} {rules : List Rule} {verdicts : List Verdict} {a : Analysis}
    (made : Analysis.ofVerdicts site now rules verdicts = .ok a) : Made a
  | unreachable (site now : String) (total : Int) (message : String) :
    Made (.unreachable site now total message)

def Analysis.bar (a : Analysis) (width : Nat) : Except BarError ScoreBar :=
  ScoreBar.ofScore a.score a.summary.passed a.summary.total width

namespace ScoreBar

/-- The cells that a score fills of a width, a half going up. -/
def cellsOf (score : Int) (width : Nat) : Int := (2 * score * width + 100) / 200

structure Filled (score : Int) (width : Nat) (bar : ScoreBar) : Prop where
  whole : bar.filled + bar.empty = width
  filled : (bar.filled : Int) = cellsOf score width
  shown : bar.text.take width = List.replicate bar.filled '█' ++ List.replicate bar.empty '░'

section
variable {score other : Int} {width : Nat}

theorem colorFound (nonnegative : 0 ≤ score) : ∃ color, scoreColor? score = some color := by
  have banded : (scoreBands.find? fun band => band.1 ≤ score).isSome = true := by
    rw [List.find?_isSome]
    exact ⟨(0, .red), by decide, decide_eq_true nonnegative⟩
  obtain ⟨band, found⟩ := Option.isSome_iff_exists.mp banded
  exact ⟨band.2, congrArg (Option.map Prod.snd) found⟩

theorem cellsMono (le : score ≤ other) (width : Nat) :
    cellsOf score width ≤ cellsOf other width := by
  have product := mul_le_mul_of_nonneg_right le (Int.natCast_nonneg width)
  unfold cellsOf
  rw [mul_assoc, mul_assoc]
  omega

theorem cellsNone (width : Nat) : cellsOf 0 width = 0 := by
  unfold cellsOf
  omega

theorem cellsAll (width : Nat) : cellsOf 100 width = width := by
  unfold cellsOf
  omega

theorem cellsWithin (within : 0 ≤ score ∧ score ≤ 100) (width : Nat) :
    0 ≤ cellsOf score width ∧ cellsOf score width ≤ width := by
  have least := cellsMono within.1 width
  have most := cellsMono within.2 width
  rw [cellsNone] at least
  rw [cellsAll] at most
  exact ⟨least, most⟩

theorem cellsFilled (within : 0 ≤ score ∧ score ≤ 100) (narrow : width ≤ 2 ^ 40) :
    filledCells score width = .ok (cellsOf score width) := by
  have nonnegative : 0 ≤ score * width := mul_nonneg within.1 (Int.natCast_nonneg width)
  have few : score * width < 2 ^ 47 := by
    have product := mul_le_mul_of_nonneg_right within.2 (Int.natCast_nonneg width)
    omega
  have small := Number.quotientSmall nonnegative few (show (0 : Int) < 100 by decide)
  have rounded : Number.roundHalfUp (Number.ratio (score * width) 100) = cellsOf score width := by
    rw [Number.quotientRounded nonnegative few (by decide) (by decide), cellsOf, mul_assoc]
    norm_num
  unfold filledCells
  rw [Number.checkedRatioSure small, ← rounded]
  exact Number.quotientRoundedUp small

theorem barFilled (within : 0 ≤ score ∧ score ≤ 100) (narrow : width ≤ 2 ^ 40)
    (passed total : Int) :
    ∃ bar, ofScore score passed total width = .ok bar ∧ Filled score width bar := by
  obtain ⟨color, colored⟩ := colorFound within.1
  obtain ⟨least, most⟩ := cellsWithin within width
  have cells := cellsFilled within narrow
  generalize counted : cellsOf score width = filled at least most cells
  refine ⟨⟨color, filled.toNat, (width - filled).toNat, score, passed, total⟩, ?_, ?_⟩
  · simp only [ofScore, colored, cells]
  · have whole : filled.toNat + (width - filled).toNat = width := by omega
    refine ⟨whole, ?_, ?_⟩
    · rw [counted]
      exact Int.toNat_of_nonneg least
    · simp only [text, pieces, List.flatMap_cons]
      rw [← List.append_assoc, List.take_left']
      simpa only [List.length_append, List.length_replicate] using whole

end

end ScoreBar

namespace Analysis

theorem Made.within {a : Analysis} (made : a.Made) : 0 ≤ a.score ∧ a.score ≤ 100 := by
  cases made with
  | judged made =>
    unfold ofVerdicts at made
    split at made
    · cases made
      exact judgedWithin _ _ _
    · cases made
  | unreachable site now total message => exact ⟨le_rfl, Int.zero_le_ofNat 100⟩

end Analysis

theorem scoreShown {a : Analysis} (made : a.Made) {width : Nat} (narrow : width ≤ 2 ^ 40) :
    ∃ bar, a.bar width = .ok bar ∧ ScoreBar.Filled a.score width bar ∧
      (a.score = 0 → bar.filled = 0) ∧ (a.score = 100 → bar.filled = width) ∧
      ∀ b : Analysis, b.Made → a.score ≤ b.score →
        ∃ other, b.bar width = .ok other ∧ bar.filled ≤ other.filled := by
  obtain ⟨bar, shown, filled⟩ :=
    ScoreBar.barFilled made.within narrow a.summary.passed a.summary.total
  have cells := filled.filled
  refine ⟨bar, shown, filled, fun none => ?_, fun full => ?_, fun b made order => ?_⟩
  · rw [none, ScoreBar.cellsNone] at cells
    omega
  · rw [full, ScoreBar.cellsAll] at cells
    omega
  · obtain ⟨other, shown, filled⟩ :=
      ScoreBar.barFilled made.within narrow b.summary.passed b.summary.total
    have mono := ScoreBar.cellsMono order width
    rw [← cells, ← filled.filled] at mono
    exact ⟨other, shown, by omega⟩

theorem twoOfThreeShown : ∃ a bar,
    Analysis.ofVerdicts "https://a.b/" "now" (catalog.take 3)
      [.plain true "" "", .plain true "" "", .plain false "" ""] = .ok a ∧
    a.score = 67 ∧ a.bar 25 = .ok bar ∧ bar.filled = 17 ∧ bar.empty = 8 := by
  let verdicts : List Verdict := [.plain true "" "", .plain true "" "", .plain false "" ""]
  let a : Analysis := .ofJudged "https://a.b/" "now" ((catalog.take 3).zip verdicts)
  have score : a.score = 67 := by decide +kernel
  have made : Analysis.ofVerdicts "https://a.b/" "now" (catalog.take 3) verdicts = .ok a := rfl
  obtain ⟨bar, shown, filled, -⟩ :=
    scoreShown (.judged made) (show 25 ≤ 2 ^ 40 by decide)
  have cells := filled.filled
  have whole := filled.whole
  rw [score, show ScoreBar.cellsOf 67 25 = 17 from rfl] at cells
  exact ⟨a, bar, made, score, shown, by omega, by omega⟩

end PageAudit
