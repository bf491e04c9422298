import PageAudit.Pattern.Basic
import PageAudit.Proofs.Pattern.Scan
import PageAudit.Proofs.Text.Line
/-!
Patterns that show something: whatever text they take, one of its characters is not blank.
-/
namespace PageAudit.Pattern

def refusesBlanks (accepts : Char → Bool) : Bool :=
  Text.blankCodes.all fun n => !accepts (Char.ofNat n)

def visible : Pattern → Bool
  | done => false
  | one accepts next => refusesBlanks accepts || next.visible
  | many _ next | few _ next | lacking _ next | edge next | opening next | closing next
  | again next => next.visible
  | either left right => left.visible && right.visible

def Bracketed (text : List Char) : Prop := ∃ c rest, text = c :: rest ∧ Text.caseKey c = '<'

section
variable {p : Pattern} {text : List Char} {c : Char}

theorem acceptedFilled {accepts : Char → Bool} (refuses : refusesBlanks accepts = true)
    (accepted : accepts c = true) : Text.isBlank c = false := by
  cases blank : Text.isBlank c with
  | false => rfl
  | true =>
    have refused := List.all_eq_true.mp refuses c.toNat (Text.blankListed blank)
    simp [Char.ofNat_toNat, accepted] at refused

theorem visibleTaken (seen : p.visible = true) (takes : p.Takes text) :
    ∃ c ∈ text, Text.isBlank c = false := by
  induction p generalizing text with
  | done => cases seen
  | one accepts next ih =>
    obtain ⟨c, rest, rfl, accepted, takes⟩ := takes
    rcases Bool.or_eq_true_iff.mp seen with refuses | later
    · exact ⟨c, List.mem_cons_self, acceptedFilled refuses accepted⟩
    · obtain ⟨d, member, filled⟩ := ih later takes
      exact ⟨d, List.mem_cons_of_mem c member, filled⟩
  | many accepts next ih =>
    obtain ⟨passed, rest, rfl, -, takes⟩ := takes
    obtain ⟨d, member, filled⟩ := ih seen takes
    exact ⟨d, List.mem_append_right passed member, filled⟩
  | few accepts next ih =>
    obtain ⟨passed, rest, rfl, -, takes⟩ := takes
    obtain ⟨d, member, filled⟩ := ih seen takes
    exact ⟨d, List.mem_append_right passed member, filled⟩
  | either left right ihLeft ihRight =>
    obtain ⟨seenLeft, seenRight⟩ := Bool.and_eq_true_iff.mp seen
    rcases takes with takes | takes
    · exact ihLeft seenLeft takes
    · exact ihRight seenRight takes
  | lacking ahead next ihAhead ih => exact ih seen takes
  | edge next ih => exact ih seen takes
  | opening next ih => exact ih seen takes
  | closing next ih => exact ih seen takes
  | again next ih =>
    obtain ⟨passed, rest, rfl, takes⟩ := takes
    obtain ⟨d, member, filled⟩ := ih seen takes
    exact ⟨d, List.mem_append_right passed member, filled⟩

theorem keyRefusesBlanks (filled : Text.isBlank (Text.caseKey c) = false) :
    refusesBlanks (Text.hasKey (Text.caseKey c)) = true := by
  have blanks : (Text.blankCodes.all fun n => Text.isBlank (Char.ofNat n)) = true := by decide
  refine List.all_eq_true.mpr fun n member => ?_
  have blank : Text.isBlank (Char.ofNat n) = true := List.all_eq_true.mp blanks n member
  rw [Text.hasKey, Text.blankKey blank, Bool.not_eq_true', beq_eq_false_iff_ne]
  intro same
  rw [← same, blank] at filled
  cases filled

theorem lettersVisible {word : String} {next : Pattern} (starts : word.toList.head? = some c)
    (filled : Text.isBlank (Text.caseKey c) = false) : (letters word next).visible = true := by
  obtain ⟨rest, whole⟩ := List.head?_eq_some_iff.mp starts
  rw [letters, whole]
  exact Bool.or_eq_true_iff.mpr (.inl (keyRefusesBlanks filled))

theorem bracketedVisible (bracketed : Bracketed text) : (ofText text).visible = true := by
  obtain ⟨c, rest, rfl, opens⟩ := bracketed
  refine Bool.or_eq_true_iff.mpr (.inl (keyRefusesBlanks ?_))
  rw [opens]
  decide

theorem lettersBracketed {word : List Char} {next : Pattern}
    (takes : (lettersOf ('<' :: word) next).Takes text) : Bracketed text := by
  obtain ⟨c, rest, rfl, read, -⟩ := takes
  exact ⟨c, rest, rfl, beq_iff_eq.mp read⟩

end

end PageAudit.Pattern
