import PageAudit.Check.Loading
import PageAudit.Check.Scripting
import PageAudit.Proofs.Check.Growing
import PageAudit.Proofs.Number.Share
import PageAudit.Proofs.Pattern.Piece
/-!
Quantities that are counted one by one and told together. Scripts inside the page are scripts, images
with a size are images, and no image is left out of both of the counts that are taken of them.
-/
namespace PageAudit.Check

open Pattern Number

section
variable (s : Subject)

theorem inlineAtMost : s.count inlineScript ≤ s.count (tag "script") := by
  refine countMost (p := tag "script") (tagNearest (by decide)) rfl oneFilled
    (fun matched => ?_) s.markup
  obtain ⟨read, _, rfl, keys, -, tagged, _, rfl, within, reads⟩ :=
    (lettersRead "<script").mp (runReads matched)
  obtain ⟨rest, rfl, ends⟩ := (verbatimRead ">").mp reads
  refine ⟨_, (lettersRead "<script").mpr ⟨read, _, rfl, keys, tagged, _, rfl, within,
    (verbatimRead ">").mpr ⟨rest, rfl, rfl⟩⟩, ?_⟩
  obtain ⟨part, taken⟩ := readsTaken _ ends
  rw [taken.length]
  exact Nat.le_add_right _ _

theorem sizeWords : ∀ word ∈ ["width=", "height="], tagWord word = true := by decide

theorem sizedCloses : Closes sizedImg fun part => Text.startsLike "<img".toList part &&
    holdsWithin ["width=", "height="] (part.drop "<img".toList.length) :=
  (Closes.bracket.holding sizeWords (List.cons_ne_nil _ _)).named rfl

theorem unsizedCloses : Closes unsizedImg fun part => Text.startsLike "<img".toList part &&
    (!holdsWithin ["width=", "height="] (part.drop "<img".toList.length) && true) :=
  (Closes.bracket.without sizeWords (List.cons_ne_nil _ _)).named rfl

theorem imgCloses : Closes imgTag (Text.startsLike "<img".toList) := tagCloses rfl

theorem sizedAtMost : s.count sizedImg ≤ s.count imgTag :=
  sizedCloses.countWider imgCloses (fun here => (Bool.and_eq_true_iff.mp here).1) s.markup

theorem imagesShared : s.count imgTag ≤ s.count sizedImg + (s.findAll unsizedImg).length := by
  rw [Subject.findAll, findAllCount]
  refine imgCloses.countShared sizedCloses unsizedCloses (fun {part} here => ?_) s.markup
  rw [here, Bool.true_and, Bool.true_and, Bool.and_true]
  exact (Bool.eq_false_or_eq_true _).imp id fun plain => by rw [plain]; rfl

theorem allPass {n : Nat} {above : Bool}
    (share : shareAbove (n == 0) (nearest (4 / 5)) n n = .ok above) : above = true := by
  cases n with
  | zero => exact (Except.ok.inj share).symm
  | succ n =>
    have whole : ratio (n + 1 : Nat) (n + 1 : Nat) = 1 := wholeRatio (by omega)
    rw [(shareCompared share).2, whole, fifthsRounded]
    norm_num

theorem countsConsistent :
    (∃ external : Nat, s.count (tag "script") = external + s.count inlineScript ∧
      let scripts := s.count (tag "script")
      let inside := s.count inlineScript
      (scriptExecution s).details =
        s!"Total scripts: {scripts} ({external} external, {inside} inline)") ∧
    ∃ v, layoutShift s = .ok v ∧
      let total := s.count imgTag
      let sized := s.count sizedImg
      let unsized := s.findAll unsizedImg
      let share := percent sized total
      v.details = s!"{sized}/{total} images have width/height attributes ({share}%)" ∧
      sized ≤ total ∧ share ≤ 100 ∧ total ≤ sized + unsized.length ∧
      (unsized = [] → sized = total ∧ v.passed = true) := by
  constructor
  · obtain ⟨external, whole⟩ := Nat.exists_eq_add_of_le (inlineAtMost s)
    rw [Nat.add_comm] at whole
    refine ⟨external, whole, ?_⟩
    have outside : ((external + s.count inlineScript : Nat) : Int) - s.count inlineScript =
        external := by
      omega
    simp only [scriptExecution, Verdict.located, whole, outside]
    rfl
  · obtain ⟨v, ended⟩ := layoutShiftSure s
    refine ⟨v, ended, ?_⟩
    obtain ⟨above, compared, later⟩ := bindOk.mp ended
    obtain ⟨evidence, -, same⟩ := bindOk.mp later
    obtain rfl := Except.ok.inj same
    have few := sizedAtMost s
    have shared := imagesShared s
    have within := percentWithin (Int.natCast_nonneg (s.count sizedImg)) (Int.ofNat_le.mpr few)
    refine ⟨rfl, few, within.2, shared, fun none => ?_⟩
    have whole : s.count sizedImg = s.count imgTag := by
      rw [none, List.length_nil] at shared
      exact Nat.le_antisymm few shared
    rw [whole] at compared
    exact ⟨whole, allPass compared⟩

end

end PageAudit.Check
