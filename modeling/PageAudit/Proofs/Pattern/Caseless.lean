import PageAudit.Check.Basic
import PageAudit.Proofs.Pattern.Lowered
/-!
Pieces without letter case. Letters are read in either case, so a pattern is caseless if the texts
it reads as they stand have no letters and its kinds take or refuse both cases.
-/
namespace PageAudit.Pattern

open Text

section
variable {accepts : Char → Bool}

theorem lettersAlike (answer : Bool) (same : ∀ c, c.isAlpha = true → accepts c = answer) :
    uncased accepts = true := by
  have letters : (capitals.all fun c => c.isAlpha && c.toLower.isAlpha) = true := by
    decide
  refine List.all_eq_true.mpr fun c member => ?_
  obtain ⟨big, small⟩ := Bool.and_eq_true_iff.mp (List.all_eq_true.mp letters c member)
  rw [same c big, same c.toLower small, decide_eq_true rfl]

@[simp] theorem keyUncased (key : Char) : uncased (hasKey key) = true := by
  have keys : uncased caseKey = true := by decide
  refine List.all_eq_true.mpr fun c member => ?_
  simp [hasKey, uncasedSame keys]

@[simp] theorem plainUncased {d : Char} (plain : d.isAlpha = false) :
    uncased (· == d) = true := by
  refine lettersAlike false fun c letter => ?_
  rw [beq_eq_false_iff_ne]
  rintro rfl
  rw [letter] at plain
  cases plain

@[simp] theorem exceptUncased {chars : List Char} (plain : ∀ c ∈ chars, c.isAlpha = false) :
    uncased (except chars) = true := by
  refine lettersAlike true fun c letter => ?_
  simp only [except, Bool.not_eq_true', List.contains_eq_mem, decide_eq_false_iff_not]
  intro member
  rw [plain c member] at letter
  cases letter

@[simp] theorem anyUncased : uncased anyChar = true := by decide

@[simp] theorem quoteUncased : uncased isQuote = true := by decide

@[simp] theorem blankUncased : uncased isBlank = true := by decide

@[simp] theorem wordUncased : uncased isWord = true := by decide

@[simp] theorem digitUncased : uncased isDigit = true := by decide

end

section
variable {accepts : Char → Bool} (next : Pattern)

@[simp] theorem lettersCaseless (text : String) :
    (letters text next).caseless = next.caseless := by
  unfold letters lettersOf
  induction text.toList with
  | nil => rfl
  | cons c rest ih => rw [List.foldr_cons, caseless, keyUncased, Bool.true_and, ih]

@[simp] theorem verbatimCaseless {text : String} (plain : ∀ c ∈ text.toList, c.isAlpha = false) :
    (verbatim text next).caseless = next.caseless := by
  unfold verbatim
  generalize text.toList = chars at plain ⊢
  induction chars with
  | nil => rfl
  | cons c rest ih =>
    obtain ⟨first, others⟩ := List.forall_mem_cons.mp plain
    rw [List.foldr_cons, caseless, plainUncased first, Bool.true_and, ih others]

@[simp] theorem charCaseless :
    (char accepts next).caseless = (uncased accepts && next.caseless) := rfl

@[simp] theorem zeroOrMoreCaseless :
    (zeroOrMore accepts next).caseless = (uncased accepts && next.caseless) := rfl

@[simp] theorem oneOrMoreCaseless :
    (oneOrMore accepts next).caseless = (uncased accepts && next.caseless) := by
  simp [oneOrMore, caseless]

@[simp] theorem fewestCaseless :
    (fewest accepts next).caseless = (uncased accepts && next.caseless) := rfl

@[simp] theorem atMostCaseless (same : uncased accepts = true) (n : Nat) :
    (atMost accepts n next).caseless = next.caseless := by
  induction n with
  | zero => rfl
  | succ n ih => simp [atMost, caseless, same, ih]

@[simp] theorem oneOfOneCaseless (pieces : List Piece) :
    (oneOf [pieces] next).caseless = (row pieces next).caseless := rfl

@[simp] theorem oneOfMoreCaseless (pieces others : List Piece) (more : List (List Piece)) :
    (oneOf (pieces :: others :: more) next).caseless =
      ((row pieces next).caseless && (oneOf (others :: more) next).caseless) := rfl

@[simp] theorem absentCaseless (pieces : List Piece) :
    (absent pieces next).caseless = ((of pieces).caseless && next.caseless) := rfl

@[simp] theorem groupCaseless (pieces : List Piece) :
    (group pieces next).caseless = (row pieces (.closing next)).caseless := rfl

@[simp] theorem repeatedCaseless : (repeated next).caseless = next.caseless := rfl

@[simp] theorem wordEdgeCaseless : (wordEdge next).caseless = next.caseless := rfl

@[simp] theorem closingCaseless : (closing next).caseless = next.caseless := rfl

@[simp] theorem doneCaseless : done.caseless = true := rfl

@[simp] theorem rowNil : row [] next = next := rfl

@[simp] theorem rowCons (piece : Piece) (pieces : List Piece) :
    row (piece :: pieces) next = piece (row pieces next) := rfl

@[simp] theorem anyOfCaseless (texts : List String) :
    (anyOf texts next).caseless = next.caseless := by
  unfold anyOf
  induction texts with
  | nil => rfl
  | cons text more ih => cases more <;> simp_all

@[simp] theorem quoteCaseless : (quote next).caseless = next.caseless := by simp [quote]

@[simp] theorem blanksCaseless : (blanks next).caseless = next.caseless := by simp [blanks]

@[simp] theorem someBlanksCaseless : (someBlanks next).caseless = next.caseless := by
  simp [someBlanks]

@[simp] theorem inTagCaseless : (inTag next).caseless = next.caseless := by simp [inTag]

@[simp] theorem someInTagCaseless : (someInTag next).caseless = next.caseless := by
  simp [someInTag]

@[simp] theorem valuedCaseless (name value : String) :
    (valued name value next).caseless = next.caseless := by
  simp [valued]

end

@[simp] theorem opensCaseless (name : String) : (opens name).caseless = true := by
  simp [opens, of]

@[simp] theorem tagCaseless (name : String) : (tag name).caseless = true := by
  simp [tag, of]

@[simp] theorem tagHoldingCaseless (name text : String) :
    (tagHolding name text).caseless = true := by
  simp [tagHolding, of]

@[simp] theorem tagValuedCaseless (name field value : String) :
    (tagValued name field value).caseless = true := by
  simp [tagValued, of]

@[simp] theorem wordCaseless (text : String) : (word text).caseless = true := by
  simp [word, of]

@[simp] theorem wordsCaseless (texts : List String) : (words texts).caseless = true := by
  simp [words, of]

end PageAudit.Pattern
