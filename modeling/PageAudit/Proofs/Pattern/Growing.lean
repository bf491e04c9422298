import PageAudit.Proofs.Pattern.Caseless
import PageAudit.Proofs.Pattern.Followed
/-!
Pieces that go on matching when more text follows. A pattern that is put together from them grows.
-/
namespace PageAudit.Pattern

section
variable (next : Pattern)

@[simp] theorem lettersGrowing (text : String) : (letters text next).growing = next.growing := by
  unfold letters lettersOf
  induction text.toList with
  | nil => rfl
  | cons c rest ih => exact ih

@[simp] theorem verbatimGrowing (text : String) : (verbatim text next).growing = next.growing := by
  unfold verbatim
  induction text.toList with
  | nil => rfl
  | cons c rest ih => exact ih

@[simp] theorem anyOfGrowing (texts : List String) :
    (anyOf texts next).growing = next.growing := by
  unfold anyOf
  induction texts with
  | nil => rfl
  | cons text more ih =>
    have first : (row [letters text] next).growing = next.growing := lettersGrowing next text
    cases more with
    | nil => exact first
    | cons other more =>
      change ((row [letters text] next).growing && _) = next.growing
      rw [first, ih, Bool.and_self]

@[simp] theorem blanksGrowing : (blanks next).growing = next.growing := rfl

@[simp] theorem someBlanksGrowing : (someBlanks next).growing = next.growing := rfl

@[simp] theorem inTagGrowing : (inTag next).growing = next.growing := rfl

@[simp] theorem someInTagGrowing : (someInTag next).growing = next.growing := rfl

@[simp] theorem quoteGrowing : (quote next).growing = next.growing := rfl

@[simp] theorem fewestGrowing (accepts : Char → Bool) :
    (fewest accepts next).growing = next.growing := rfl

@[simp] theorem oneOfOneGrowing (pieces : List Piece) :
    (oneOf [pieces] next).growing = (row pieces next).growing := rfl

@[simp] theorem oneOfMoreGrowing (pieces others : List Piece) (more : List (List Piece)) :
    (oneOf (pieces :: others :: more) next).growing =
      ((row pieces next).growing && (oneOf (others :: more) next).growing) := rfl

@[simp] theorem valuedGrowing (name value : String) :
    (valued name value next).growing = next.growing := by
  simp [valued]

end

@[simp] theorem opensGrowing (name : String) : (opens name).growing = true := by
  simp [opens, of, growing]

@[simp] theorem tagGrowing (name : String) : (tag name).growing = true := by
  simp [tag, of, growing]

@[simp] theorem tagHoldingGrowing (name text : String) : (tagHolding name text).growing = true := by
  simp [tagHolding, of, growing]

@[simp] theorem tagValuedGrowing (name field value : String) :
    (tagValued name field value).growing = true := by
  simp [tagValued, of, growing]

@[simp] theorem wordGrowing (text : String) : (word text).growing = true := by
  simp [word, of, growing]

@[simp] theorem wordsGrowing (texts : List String) : (words texts).growing = true := by
  simp [words, of, growing]

end PageAudit.Pattern
