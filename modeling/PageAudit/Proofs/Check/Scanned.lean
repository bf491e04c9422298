import PageAudit.Check.Table
import PageAudit.Proofs.Check.Faults
import PageAudit.Proofs.Pattern.Piece
/-!
Checks told without patterns. The tags of a name are the pieces of a page in which the name stands,
also where a tag is left open, starts inside another one or goes over several lines.
-/
namespace PageAudit.Check

open Pattern

def markedPieces (mark : String) (markup : List Char) : List (List Char) :=
  (Text.pieces markup).filter (Text.holdsLike mark.toList)

/-- The image tags that say nothing of an alternative behind their name. -/
def untoldPieces (markup : List Char) : List (List Char) :=
  (markedPieces "<img" markup).filter fun part =>
    !Text.holdsLike "alt=".toList ((Text.behindLike "<img".toList part).drop 1)

section
variable {part found : List Char} (s : Subject)

theorem tagCounted {name : String} (known : tagWord ("<" ++ name) = true) :
    s.count (tag name) = (markedPieces ("<" ++ name) s.markup).length := by
  rw [markedPieces, ← List.countP_eq_length_filter]
  exact (tagCloses known).countPieces s.markup

theorem imagesFound : s.findAll imgTag =
    (Text.pieces s.markup).filterMap fun part =>
      (Text.fromLike? "<img".toList part).map (· ++ ['>']) :=
  (tagCloses rfl : Closes imgTag _).findPieces s.markup

theorem imagesCounted : (s.findAll imgTag).length = (markedPieces "<img" s.markup).length := by
  rw [Subject.findAll, findAllCount]
  exact tagCounted s rfl

theorem altTold (free : '>' ∉ part) (first : Text.fromLike? "<img".toList part = some found) :
    imgWithAlt.occursIn (found ++ ['>']) =
      Text.holdsLike "alt=".toList ((Text.behindLike "<img".toList part).drop 1) := by
  obtain ⟨inside, starts⟩ := Text.fromFound first
  have told : imgWithAlt.occursIn (found ++ ['>']) =
      holdsWithin ["alt="] (found.drop "<img".toList.length) :=
    tagHolds rfl rfl starts fun member => free (inside.subset member)
  rw [told, holdsWithin, Text.behindLike, first, List.any_cons, List.any_nil, Bool.or_false]

theorem missingCounted :
    ((s.findAll imgTag).filter fun img => !imgWithAlt.occursIn img).length =
      (untoldPieces s.markup).length := by
  rw [imagesFound, List.filter_filterMap, List.length_filterMap_eq_countP, untoldPieces,
    markedPieces, List.filter_filter, ← List.countP_eq_length_filter]
  refine List.countP_congr fun part member => ?_
  have free := Text.pieceFree member
  have named : Text.holdsLike "<img".toList part = (Text.fromLike? "<img".toList part).isSome :=
    Text.holdsFrom
  rw [Bool.and_eq_true, named]
  cases first : Text.fromLike? "<img".toList part with
  | none => simp
  | some found => simp [Option.filter, altTold free first]

theorem altTextScanned : ∃ check v, checks.find? "wcag-001" = some check ∧ check.run s = .ok v ∧
    (v.passed = true ↔ untoldPieces s.markup = []) ∧
    let images := (markedPieces "<img" s.markup).length
    let missing := (untoldPieces s.markup).length
    v.details = if images = 0 then "No images found on page."
      else s!"{images} images found, {missing} without alt text." := by
  obtain ⟨v, ended⟩ := failingRun "alt text" (altTextSure s)
  refine ⟨_, v, rfl, ended, ?_⟩
  obtain ⟨evidence, -, same⟩ := bindOk.mp (failingEnded ended)
  obtain rfl := Except.ok.inj same
  constructor
  · simp only [Verdict.located, List.isEmpty_iff, ← List.length_eq_zero_iff, missingCounted]
  · simp only [Verdict.located, List.isEmpty_iff, ← List.length_eq_zero_iff, missingCounted,
      imagesCounted]

example : untoldPieces "<img <img alt=''>\n<img\n><img".toList = ["\n<img\n".toList] := by decide

theorem headingsScanned : ∃ check v, checks.find? "seo-003" = some check ∧ check.run s = .ok v ∧
    let h1 := (markedPieces "<h1" s.markup).length
    let h2 := (markedPieces "<h2" s.markup).length
    let h3 := (markedPieces "<h3" s.markup).length
    v.details = s!"Headings: {h1} <h1>, {h2} <h2>, {h3} <h3>." ++
      (if 0 < h3 ∧ h2 = 0 then " Skips heading levels!" else "") ∧
    (v.passed = true ↔ h1 = 1 ∧ ¬(0 < h3 ∧ h2 = 0)) ∧
    (v.evidence ≠ none → v.passed = false) := by
  refine ⟨_, headingHierarchy s, rfl, rfl, ?_⟩
  have first : s.count (tag "h1") = (markedPieces "<h1" s.markup).length := tagCounted s rfl
  have second : s.count (tag "h2") = (markedPieces "<h2" s.markup).length := tagCounted s rfl
  have third : s.count (tag "h3") = (markedPieces "<h3" s.markup).length := tagCounted s rfl
  simp only [headingHierarchy, Verdict.located, first, second, third]
  generalize (markedPieces "<h1" s.markup).length = h1
  generalize (markedPieces "<h2" s.markup).length = h2
  generalize (markedPieces "<h3" s.markup).length = h3
  have skips : (decide (0 < h3) && h2 == 0) = decide (0 < h3 ∧ h2 = 0) := by
    rw [Bool.decide_and, beq_eq_decide]
  rw [skips]
  refine ⟨by simp only [decide_eq_true_iff], ?_, fun located => ?_⟩
  · rw [Bool.and_eq_true, beq_iff_eq, Bool.not_eq_true', decide_eq_false_iff_not]
  by_cases single : h1 = 1
  · have skipped : 0 < h3 ∧ h2 = 0 := by
      by_contra kept
      exact located (by simp [single, kept, Subject.excerptIf])
    simp [skipped]
  · simp [single]

end

end PageAudit.Check
