import Mathlib.Data.List.Infix
import PageAudit.Check.Table
import PageAudit.Proofs.Pattern.Piece
import PageAudit.Proofs.Pattern.Value
import PageAudit.Proofs.Text.Case
/-!
Members that are taken of one name again and again. A name may be cut off at its start before it is
looked for once more, so two names are taken for one if only their last letters are the same.
-/
namespace PageAudit.Check

open Pattern

structure MemberOf (text before name after : List Char) : Prop where
  whole : text = before ++ (name ++ '.' :: after)
  member : after.head?.any Text.isWord = true

structure AccessIn (text before name after : List Char) : Prop
    extends MemberOf text before name after where
  filled : name ≠ []
  word : ∀ c ∈ name, Text.isWord c = true
  apart : Text.isWord (before.getLastD ' ') = false

/-- A name that a member is taken of stands before a member at another place too, be it as the end
of a longer name. -/
def AccessedTwice (text : List Char) : Prop :=
  ∃ name before after before' after', AccessIn text before name after ∧
    MemberOf text before' name after' ∧ before ≠ before'

structure TakenAgain (text before name member between after : List Char) : Prop where
  whole : text = before ++ (name ++ '.' :: (member ++ (between ++ (name ++ '.' :: after))))
  name : name ≠ [] ∧ ∀ c ∈ name, Text.isWord c = true
  member : member ≠ [] ∧ ∀ c ∈ member, Text.isWord c = true
  later : after.head?.any Text.isWord = true
  plain : '=' ∉ between

/-- A letter with a member behind it, and the same letter, case apart, with another member further
on. No equals sign stands between them. -/
structure EndsAlike (text before between after : List Char) (last first again : Char) : Prop where
  whole : text = before ++ last :: '.' :: first :: (between ++ again :: '.' :: after)
  word : Text.isWord last = true
  alike : Text.lower again = Text.lower last
  first : Text.isWord first = true
  later : after.head?.any Text.isWord = true
  plain : '=' ∉ between

section
variable {text before between after name read : List Char} {last first again c : Char} {t u : Trail}
  {next : Pattern}

theorem memberRead : (row [verbatim ".", oneOrMore Text.isWord] next).Reads t text u ↔
    ∃ member rest, text = '.' :: (member ++ rest) ∧ member ≠ [] ∧
      (∀ c ∈ member, Text.isWord c = true) ∧ next.Reads ((t.step '.').over member) rest u := by
  constructor
  · intro reads
    obtain ⟨_, rfl, later⟩ := (verbatimRead ".").mp reads
    obtain ⟨member, rest, rfl, filled, word, later⟩ := someRead.mp later
    exact ⟨member, rest, rfl, filled, word, later⟩
  · rintro ⟨member, rest, rfl, filled, word, reads⟩
    exact (verbatimRead ".").mpr ⟨_, rfl, someRead.mpr ⟨member, rest, rfl, filled, word, reads⟩⟩

theorem repeatedReads : (∃ u, repeatedAccess.Reads t text u) ↔
    ∃ name member between read other rest,
      text = name ++ '.' :: (member ++ (between ++ (read ++ '.' :: (other ++ rest)))) ∧
      (name ≠ [] ∧ ∀ c ∈ name, Text.isWord c = true) ∧
      (member ≠ [] ∧ ∀ c ∈ member, Text.isWord c = true) ∧ '=' ∉ between ∧
      read.map Text.lower = name.map Text.lower ∧
      other ≠ [] ∧ ∀ c ∈ other, Text.isWord c = true := by
  have group (name rest member between : List Char) :
      ((((t.grouped name rest).step '.').over member).over between).group = name := by
    rw [(overGroup _ between).2.2, (overGroup _ member).2.2]
    exact groupedRead t name rest
  constructor
  · rintro ⟨u, reads⟩
    obtain ⟨name, _, rfl, filled, word, reads⟩ := someRead.mp reads
    obtain ⟨member, _, rfl, some, letters, reads⟩ := memberRead.mp reads
    obtain ⟨between, _, rfl, plain, read, _, rfl, reached, reads⟩ := reads
    obtain ⟨other, rest, rfl, more, others, -⟩ := memberRead.mp reads
    obtain ⟨read', split, -, same⟩ := rereadPlaces.mp reached
    obtain rfl := List.append_cancel_right split
    have same : read.map Text.lower = name.map Text.lower :=
      same.trans (congrArg (List.map Text.lower) (group name _ member between))
    exact ⟨name, member, between, read, other, rest, rfl, ⟨filled, word⟩, ⟨some, letters⟩,
      exceptAll.mp plain, same, more, others⟩
  · rintro ⟨name, member, between, read, other, rest, rfl, ⟨filled, word⟩, ⟨some, letters⟩, plain,
      same, more, others⟩
    refine ⟨_, someRead.mpr ⟨name, _, rfl, filled, word, memberRead.mpr ⟨member, _, rfl, some,
      letters, between, _, rfl, exceptAll.mpr plain, read, _, rfl, ?_, memberRead.mpr ⟨other, rest,
        rfl, more, others, rfl⟩⟩⟩⟩
    refine rereadPlaces.mpr ⟨read, rfl, rfl, ?_⟩
    exact same.trans (congrArg (List.map Text.lower) (group name _ member between).symm)

theorem headWord (later : after.head?.any Text.isWord = true) :
    ∃ d rest, after = d :: rest ∧ Text.isWord d = true := by
  cases after with
  | nil => cases later
  | cons d rest => exact ⟨d, rest, rfl, later⟩

theorem wordPlain (word : ∀ c ∈ name, Text.isWord c = true) : '=' ∉ name := fun member =>
  absurd (word '=' member) (by decide)

theorem alikePlain (word : ∀ c ∈ name, Text.isWord c = true)
    (same : read.map Text.lower = name.map Text.lower) : '=' ∉ read := by
  intro member
  have there : Text.lower '=' ∈ name.map Text.lower := same ▸ List.mem_map_of_mem member
  obtain ⟨c, known, small⟩ := List.mem_map.mp there
  have small : Text.lower c = '=' := small.trans (by decide)
  exact wordPlain word (Text.lowLower (by decide) (by decide) small ▸ known)

theorem repeatedOccurs : repeatedAccess.occursIn text = true ↔
    ∃ before between after last first again,
      EndsAlike text before between after last first again := by
  rw [occursReads fun before rest => repeatedReads]
  constructor
  · rintro ⟨_, ⟨passed, rfl⟩, name, member, between, read, other, rest, rfl, ⟨filled, word⟩,
      ⟨some, letters⟩, plain, same, more, others⟩
    -- The last letter of the first name alone is a shorter way to match.
    obtain ⟨start, last, rfl⟩ := List.eq_nil_or_concat' name |>.resolve_left filled
    have filled' : read ≠ [] := by
      rintro rfl
      simp at same
    obtain ⟨start', again, rfl⟩ := List.eq_nil_or_concat' read |>.resolve_left filled'
    obtain ⟨first, member, rfl⟩ := List.exists_cons_of_ne_nil some
    obtain ⟨d, other, rfl⟩ := List.exists_cons_of_ne_nil more
    have free := alikePlain word same
    simp only [List.map_append, List.map_cons, List.map_nil] at same
    obtain ⟨-, alike⟩ := List.append_inj' same rfl
    obtain ⟨start₁, member₁⟩ := List.forall_mem_cons.mp letters
    refine ⟨passed ++ start, member ++ (between ++ start'), d :: (other ++ rest), last, first,
      again, ?_, word last (by simp), (List.cons.inj alike).1, start₁, others d (by simp), ?_⟩
    · simp
    · simp only [List.mem_append, not_or] at free ⊢
      exact ⟨wordPlain member₁, plain, free.1⟩
  · rintro ⟨before, between, after, last, first, again, rfl, word, alike, first₁, later, plain⟩
    obtain ⟨d, after, rfl, letter⟩ := headWord later
    refine ⟨_, List.suffix_append before _, [last], [first], between, [again], [d], after, rfl,
      ⟨List.cons_ne_nil _ _, ?_⟩, ⟨List.cons_ne_nil _ _, ?_⟩, plain, ?_, List.cons_ne_nil _ _, ?_⟩
    · exact List.forall_mem_singleton.mpr word
    · exact List.forall_mem_singleton.mpr first₁
    · simp [alike]
    · exact List.forall_mem_singleton.mpr letter

theorem againOccurs {member : List Char} (taken : TakenAgain text before name member between after) :
    repeatedAccess.occursIn text = true := by
  obtain ⟨rfl, named, letters, later, plain⟩ := taken
  obtain ⟨d, rest, rfl, letter⟩ := headWord later
  refine (occursReads fun before rest => repeatedReads).mpr ⟨_, List.suffix_append before _, name,
    member, between, name, [d], rest, rfl, named, letters, plain, rfl, List.cons_ne_nil _ _, ?_⟩
  exact List.forall_mem_singleton.mpr letter

theorem destructuringTold (s : Subject) : ∃ check v, checks.find? "airbnb-004" = some check ∧
    check.run s = .ok v ∧
    (v.passed = false ↔ s.has destructuringPattern = false ∧
      ∃ before between after last first again,
        EndsAlike s.markup before between after last first again) ∧
    ((∃ before name member between after, TakenAgain s.markup before name member between after) →
      v.passed = s.has destructuringPattern) := by
  refine ⟨_, destructuring s, rfl, rfl, ?_, ?_⟩
  · rw [← repeatedOccurs]
    simp [destructuring, Verdict.plain, Subject.has]
  · rintro ⟨before, name, member, between, after, taken⟩
    have again : s.has repeatedAccess = true := againOccurs taken
    simp [destructuring, Verdict.plain, again]

theorem accessName (there : AccessIn text before name after) :
    before ∈ text.inits ∧ name = (text.drop before.length).takeWhile Text.isWord := by
  obtain ⟨⟨rfl, -⟩, -, word, -⟩ := there
  refine ⟨(List.mem_inits _ _).mpr (List.prefix_append ..), ?_⟩
  have stop : ('.' :: after).takeWhile Text.isWord = [] := List.takeWhile_cons_of_neg (by decide)
  rw [List.drop_left, List.takeWhile_append_of_pos word, stop, List.append_nil]

theorem rhymingNamesFail :
    let s : Subject := ⟨"cat.a bat.b".toList, .empty, "https://a.b/"⟩
    (∃ check v, checks.find? "airbnb-004" = some check ∧ check.run s = .ok v ∧
      v.passed = false) ∧ ¬AccessedTwice s.markup := by
  intro s
  refine ⟨⟨_, destructuring s, rfl, rfl, by decide +kernel⟩, ?_⟩
  rintro ⟨name, before, after, before', after', there, again, apart⟩
  obtain ⟨inside, same⟩ := accessName there
  have inside' : before' ∈ s.markup.inits :=
    (List.mem_inits _ _).mpr ⟨_, again.whole.symm⟩
  have starts : (name ++ ['.']).isPrefixOf (s.markup.drop before'.length) = true := by
    rw [again.whole, List.drop_left, List.isPrefixOf_iff_prefix]
    exact ⟨after', by simp⟩
  have alone : ∀ before ∈ s.markup.inits, ∀ before' ∈ s.markup.inits, before ≠ before' →
      let name := (s.markup.drop before.length).takeWhile Text.isWord
      name = [] ∨ Text.isWord (before.getLastD ' ') = true ∨
        (name ++ ['.']).isPrefixOf (s.markup.drop before'.length) = false := by
    decide +kernel
  rcases alone before inside before' inside' apart with empty | cut | unlike
  · exact there.filled (same.trans empty)
  · cases there.apart.symm.trans cut
  · rw [same, unlike] at starts
    cases starts

end

end PageAudit.Check
