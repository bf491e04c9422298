import Mathlib.Data.List.Infix
import PageAudit.Check.Document
import PageAudit.Proofs.Pattern.Group
import PageAudit.Proofs.Text.Case
/-!
Elements that are not closed. Only the first part of a document is looked at, and a tag counts if
its name starts like that of an element, so a tag may be reported that has its closing tag.
-/
namespace PageAudit.Check

open Pattern

def elements : List String := ["div", "p", "span", "a", "button"]

structure TagIn (text before name inside after : List Char) : Prop where
  whole : text = before ++ '<' :: (name ++ (inside ++ '>' :: after))
  ends : '>' ∉ inside

def Closed (name text : List Char) : Prop :=
  ∃ again, again.map Text.lower = name.map Text.lower ∧ '<' :: '/' :: (again ++ ['>']) <:+: text

/-- A tag whose name, or the start of it, is that of an element, with no closing tag for that after
it in the text. -/
structure Unclosed (text before name inside after : List Char) : Prop
    extends TagIn text before name inside after where
  element : ∃ element ∈ elements, name.map Text.caseKey = element.toList.map Text.caseKey
  never : ¬Closed name after

structure Exact (name inside : List Char) : Prop where
  element : ∃ element ∈ elements, name.map Text.lower = element.toList
  apart : ∀ c, inside.head? = some c → Text.isBlank c = true ∨ c = '/'

/-- In the first part of the document starts a tag of an element that is never closed. -/
def Blamed (markup : List Char) : Prop :=
  ∃ before name inside after, TagIn markup before name inside after ∧
    before.length < openingPart ∧ Exact name inside ∧ ¬Closed name after

def closesAgain : Pattern :=
  many anyChar (one (· == '<') (one (· == '/') (again (one (· == '>') done))))

theorem unclosedShape : unclosedTag = one (· == '<') (opening (anyOf elements (closing
    (many (except ['>']) (one (· == '>') (lacking closesAgain done)))))) := rfl

section
variable {s : Subject} {text before name inside after : List Char}

theorem closesRead (t : Trail) (text : List Char) :
    (∃ u, closesAgain.Reads t text u) ↔ Closed t.group text := by
  have group (passed : List Char) : (((t.over passed).step '<').step '/').group = t.group :=
    (overGroup t passed).2.2
  constructor
  · rintro ⟨u, passed, rest, rfl, -, c, rest, rfl, opens, d, rest, rfl, slash, again, rest, rfl,
      reached, e, rest, rfl, closes, -⟩
    obtain rfl := beq_iff_eq.mp opens
    obtain rfl := beq_iff_eq.mp slash
    obtain rfl := beq_iff_eq.mp closes
    obtain ⟨read, split, -, same⟩ := rereadPlaces.mp reached
    obtain rfl := List.append_cancel_right split
    rw [group] at same
    exact ⟨again, same, passed, rest, by simp⟩
  · rintro ⟨again, same, passed, rest, rfl⟩
    rw [← group passed] at same
    refine ⟨_, passed, '<' :: '/' :: (again ++ '>' :: rest), by simp, fun _ _ => rfl, '<', _, rfl,
      rfl, '/', _, rfl, rfl, again, _, rfl, ?_, '>', _, rfl, rfl, rfl⟩
    exact rereadPlaces.mpr ⟨again, rfl, rfl, same⟩

theorem unclosedReads (t : Trail) (text : List Char) : (∃ u, unclosedTag.Reads t text u) ↔
    ∃ name inside after, Unclosed text [] name inside after := by
  have group (name inside rest : List Char) :
      (((t.step '<').grouped name rest).over inside |>.step '>').group = name :=
    (overGroup _ inside).2.2.trans (groupedRead (t.step '<') name rest)
  rw [unclosedShape]
  constructor
  · rintro ⟨u, c, rest, rfl, opens, reads⟩
    obtain rfl := beq_iff_eq.mp opens
    obtain ⟨element, listed, reads⟩ := (anyOfRead (by decide)).mp reads
    obtain ⟨name, rest, rfl, key, inside, behind, rfl, all, d, after, rfl, closes, never, -⟩ :=
      (lettersRead element).mp reads
    obtain rfl := beq_iff_eq.mp closes
    rw [closesRead] at never
    refine ⟨name, inside, after, ⟨rfl, fun member => ?_⟩, ⟨element, listed, key⟩, fun closed => ?_⟩
    · exact absurd (all _ member) (by decide)
    · exact never ((group name inside _).symm ▸ closed)
  · rintro ⟨name, inside, after, ⟨rfl, ends⟩, ⟨element, listed, key⟩, never⟩
    refine ⟨(((t.step '<').grouped name (inside ++ '>' :: after)).over inside).step '>', '<', _, rfl,
      rfl, (anyOfRead (by decide)).mpr ⟨element, listed, ?_⟩⟩
    refine (lettersRead element).mpr ⟨name, inside ++ '>' :: after, rfl, key, inside, '>' :: after,
      rfl, fun c member => ?_, '>', after, rfl, rfl, ?_, rfl⟩
    · simpa [except] using fun same : c = '>' => ends (same ▸ member)
    · rw [closesRead]
      exact fun closed => never ((group name inside _) ▸ closed)

theorem unclosedOccurs (text : List Char) : unclosedTag.occursIn text = true ↔
    ∃ before name inside after, Unclosed text before name inside after := by
  rw [occursReads fun before rest => unclosedReads (.start before) rest]
  constructor
  · rintro ⟨rest, ⟨before, rfl⟩, name, inside, after, there⟩
    exact ⟨before, name, inside, after, ⟨congrArg (before ++ ·) there.whole, there.ends⟩,
      there.element, there.never⟩
  · rintro ⟨before, name, inside, after, there⟩
    refine ⟨'<' :: (name ++ (inside ++ '>' :: after)), ⟨before, there.whole.symm⟩, name, inside,
      after, ⟨rfl, there.ends⟩, there.element, there.never⟩

theorem unclosedDetails (s : Subject) :
    (validHtml s).details = "Found elements without a matching closing tag." ↔
      s.has obsoleteTag = false ∧ ∃ before name inside after,
        Unclosed (s.markup.take openingPart) before name inside after := by
  rw [← unclosedOccurs]
  change (if s.has obsoleteTag then _ else if unclosedTag.occursIn (s.markup.take openingPart) then _
    else _) = _ ↔ _
  cases s.has obsoleteTag with
  | true =>
    refine iff_of_false ?_ nofun
    rw [if_pos rfl]
    decide
  | false =>
    cases unclosedTag.occursIn (s.markup.take openingPart) with
    | true => exact iff_of_true rfl ⟨rfl, rfl⟩
    | false => exact iff_of_false (by decide) nofun

theorem closedLater (closed : Closed name text) (more : List Char) : Closed name (text ++ more) := by
  obtain ⟨again, same, inside⟩ := closed
  exact ⟨again, same, inside.trans (List.prefix_append text more).isInfix⟩

theorem exactElement (only : Exact name inside) :
    ∃ element ∈ elements, name.map Text.caseKey = element.toList.map Text.caseKey := by
  obtain ⟨element, listed, same⟩ := only.element
  refine ⟨element, listed, ?_⟩
  have small : ∀ element ∈ elements, element.toList.all (fun c => decide (c.toNat < 128)) = true ∧
      element.toList.map Text.caseKey = element.toList := by decide
  obtain ⟨ascii, kept⟩ := small element listed
  rw [kept, ← same]
  refine List.map_congr_left fun c member => Text.lowerKey ?_
  rw [← same] at ascii
  exact of_decide_eq_true (List.all_eq_true.mp ascii _ (List.mem_map_of_mem member))

theorem tagKept (there : TagIn text before name inside after) {n : Nat}
    (short : before.length + (name.length + inside.length + 2) ≤ n) :
    ∃ rest, TagIn (text.take n) before name inside rest ∧ after = rest ++ text.drop n := by
  obtain ⟨whole, ends⟩ := there
  have apart : text = (before ++ '<' :: (name ++ (inside ++ ['>']))) ++ after := by
    simp [whole]
  have length : (before ++ '<' :: (name ++ (inside ++ ['>']))).length ≤ n := by
    simp only [List.length_append, List.length_cons, List.length_nil]
    omega
  refine ⟨after.take (n - (before ++ '<' :: (name ++ (inside ++ ['>']))).length), ⟨?_, ends⟩, ?_⟩
  · rw [apart, List.take_append, List.take_of_length_le length]
    simp
  · rw [apart, List.drop_append, List.drop_of_length_le length, List.nil_append,
      List.take_append_drop]

theorem unclosedReported (s : Subject) :
    ((validHtml s).details = "Found elements without a matching closing tag." ↔
      s.has obsoleteTag = false ∧ ∃ before name inside after,
        Unclosed (s.markup.take openingPart) before name inside after) ∧
    (Blamed s.markup ↔
      (∃ before name inside after, Unclosed (s.markup.take openingPart) before name inside after ∧
        Exact name inside ∧ ¬Closed name (after ++ s.markup.drop openingPart)) ∨
      ∃ before name inside after, TagIn s.markup before name inside after ∧
        before.length < openingPart ∧
        openingPart < before.length + (name.length + inside.length + 2) ∧
        Exact name inside ∧ ¬Closed name after) := by
  refine ⟨unclosedDetails s, ?_⟩
  constructor
  · rintro ⟨before, name, inside, after, there, early, only, never⟩
    by_cases short : before.length + (name.length + inside.length + 2) ≤ openingPart
    · obtain ⟨rest, kept, rfl⟩ := tagKept there short
      refine .inl ⟨before, name, inside, rest, ⟨kept, exactElement only, fun closed => ?_⟩, only,
        never⟩
      exact never (closedLater closed _)
    · exact .inr ⟨before, name, inside, after, there, early, Nat.lt_of_not_le short, only, never⟩
  · rintro (⟨before, name, inside, after, there, only, never⟩ |
      ⟨before, name, inside, after, there, early, -, only, never⟩)
    · have lengths := congrArg List.length there.whole
      have cut := List.length_take_le openingPart s.markup
      refine ⟨before, name, inside, after ++ s.markup.drop openingPart, ⟨?_, there.ends⟩, ?_, only,
        never⟩
      · have joined := List.take_append_drop openingPart s.markup
        rw [there.whole] at joined
        refine joined.symm.trans ?_
        simp
      · rw [List.length_append, List.length_cons] at lengths
        omega
    · exact ⟨before, name, inside, after, there, early, only, never⟩

def startsExact (text : List Char) : Bool :=
  elements.any fun element =>
    (text.take element.toList.length).map Text.lower == element.toList &&
      (text.drop element.toList.length).head?.any fun c => Text.isBlank c || c == '/' || c == '>'

theorem exactStarts (only : Exact name inside) (after : List Char) :
    startsExact (name ++ (inside ++ '>' :: after)) = true := by
  obtain ⟨⟨element, listed, same⟩, apart⟩ := only
  have length : name.length = element.toList.length := by rw [← same, List.length_map]
  refine List.any_eq_true.mpr ⟨element, listed, Bool.and_eq_true_iff.mpr ⟨?_, ?_⟩⟩
  · rw [List.take_left' length, same, beq_self_eq_true]
  · rw [List.drop_left' length]
    cases inside with
    | nil => rfl
    | cons c inside => simpa [or_assoc] using (apart c rfl).imp_right Or.inl

theorem closedTagReported :
    let s : Subject := ⟨"<pre></pre>".toList, .empty, "https://a.b/"⟩
    (validHtml s).details = "Found elements without a matching closing tag." ∧
      ¬Blamed s.markup := by
  refine ⟨by decide +kernel, ?_⟩
  rintro ⟨before, name, inside, after, there, -, only, -⟩
  have starts := exactStarts only after
  have suffix : '<' :: (name ++ (inside ++ '>' :: after)) ∈ "<pre></pre>".toList.tails :=
    (List.mem_tails _ _).mpr ⟨before, there.whole.symm⟩
  have none : ("<pre></pre>".toList.tails.all fun text =>
      text.head? != some '<' || !startsExact text.tail) = true := by decide
  have here := List.all_eq_true.mp none _ suffix
  simp [starts] at here

end

end PageAudit.Check
