import Mathlib.Data.List.TakeWhile
import PageAudit.Check.Visiting
import PageAudit.Check.Loading
import PageAudit.Proofs.Pattern.Followed
import PageAudit.Proofs.Text.Digit
/-!
Numbers in the declarations of a page. A spacing declaration has all its digits in one run, so the
number that is read from it is too long exactly if it has too many digits.
-/
namespace PageAudit

theorem numberRefused {digits : List Char} :
    (∃ e, readNumber digits = .error e) ↔ maxDigits < digits.length := by
  unfold readNumber
  split
  · rename_i long
    exact iff_of_true ⟨_, rfl⟩ long
  · rename_i short
    exact iff_of_false nofun short

namespace Pattern

theorem runMany (accepts : Char → Bool) (t : Trail) (text : List Char) :
    ∃ u, (many accepts done).run t text = some u ∧
      u.taken = t.taken + (text.takeWhile accepts).length := by
  induction text generalizing t with
  | nil => exact ⟨t, runManyEnd accepts done t, rfl⟩
  | cons c rest ih =>
    rw [runManyStep]
    cases accepted : accepts c with
    | false => exact ⟨t, rfl, by simp [accepted]⟩
    | true =>
      obtain ⟨u, found, taken⟩ := ih (t.step c)
      refine ⟨u, by rw [if_pos rfl, found, Option.some_or], ?_⟩
      rw [taken, Trail.stepTaken, List.takeWhile_cons_of_pos accepted, List.length_cons]
      omega

theorem lettersTaken {word text : List Char} {next : Pattern}
    (takes : (lettersOf word next).Takes text) :
    ∃ read rest, text = read ++ rest ∧ next.Takes rest ∧
      ∀ c ∈ read, ∃ l ∈ word, Text.hasKey (Text.caseKey l) c = true := by
  induction word generalizing text with
  | nil => exact ⟨[], text, rfl, takes, nofun⟩
  | cons l word ih =>
    obtain ⟨c, after, rfl, read, takes⟩ := takes
    obtain ⟨more, rest, rfl, takes, all⟩ := ih takes
    refine ⟨c :: more, rest, rfl, takes, List.forall_mem_cons.mpr ⟨?_, ?_⟩⟩
    · exact ⟨l, List.mem_cons_self, read⟩
    · intro d member
      obtain ⟨k, known, key⟩ := all d member
      exact ⟨k, List.mem_cons_of_mem l known, key⟩

end Pattern

namespace Check

open Pattern

def firstDigits (text : List Char) : List Char :=
  (text.dropWhile (!Text.isDigit ·)).takeWhile Text.isDigit

theorem numberFound (before : Char) (text : List Char) :
    ((numberIn.findFrom? before text).map Match.text).getD [] = firstDigits text := by
  induction text generalizing before with
  | nil => rfl
  | cons c rest ih =>
    have starts : numberIn.mayStartWith c = Text.isDigit c := rfl
    unfold findFrom?
    cases digit : Text.isDigit c with
    | false =>
      rw [starts, digit, if_neg Bool.false_ne_true, ih c]
      simp [firstDigits, digit]
    | true =>
      obtain ⟨u, found, taken⟩ := runMany Text.isDigit ((Trail.start before).step c) rest
      have matched : numberIn.matchAt? before (c :: rest) = some u := by
        change (if Text.isDigit c then _ else none) = some u
        rw [digit, if_pos rfl, ← found]
        rfl
      have run : rest.takeWhile Text.isDigit = rest.take (rest.takeWhile Text.isDigit).length :=
        List.prefix_iff_eq_take.mp (List.takeWhile_prefix _)
      rw [starts, digit, if_pos rfl, matched]
      simp only [Option.map_some, Option.getD_some, Trail.found, taken, Trail.stepTaken,
        Trail.start, firstDigits, digit, Bool.not_true, Bool.false_eq_true, not_false_eq_true,
        List.dropWhile_cons_of_neg, List.takeWhile_cons_of_pos, Nat.zero_add]
      rw [Nat.add_comm, List.take_succ_cons, ← run]

theorem pixelsRead (declared : List Char) :
    pixels declared = readNumber (firstDigits declared) := by
  have found := numberFound ' ' declared
  unfold pixels find?
  cases number : numberIn.findFrom? ' ' declared with
  | none =>
    rw [number] at found
    rw [← found]
    rfl
  | some m =>
    rw [number] at found
    rw [← found]
    rfl

theorem pixelsRefused {declared : List Char} :
    (∃ e, pixels declared = .error e) ↔ maxDigits < (firstDigits declared).length := by
  rw [pixelsRead, numberRefused]

structure OneRun (text before digits after : List Char) : Prop where
  whole : text = before ++ (digits ++ after)
  digits : ∀ c ∈ digits, Text.isDigit c = true
  before : ∀ c ∈ before, Text.isDigit c = false
  after : ∀ c ∈ after, Text.isDigit c = false

theorem OneRun.first {text before digits after : List Char}
    (run : OneRun text before digits after) : firstDigits text = digits := by
  have skipped : ∀ c ∈ before, (!Text.isDigit c) = true := fun c member => by
    rw [run.before c member, Bool.not_false]
  rw [run.whole, firstDigits, List.dropWhile_append_of_pos skipped]
  cases digits with
  | nil =>
    have none : after.dropWhile (!Text.isDigit ·) = [] :=
      List.dropWhile_eq_nil_iff.mpr fun c member => by rw [run.after c member, Bool.not_false]
    rw [List.nil_append, none, List.takeWhile_nil]
  | cons d digits =>
    have start : (!Text.isDigit d) = false := by
      rw [run.digits d List.mem_cons_self, Bool.not_true]
    have stop : after.takeWhile Text.isDigit = [] := by
      cases after with
      | nil => rfl
      | cons c rest =>
        exact List.takeWhile_cons_of_neg (by simp [run.after c List.mem_cons_self])
    rw [List.cons_append, List.dropWhile_cons_of_neg (by simp [start]), ← List.cons_append,
      List.takeWhile_append_of_pos run.digits, stop, List.append_nil]

theorem OneRun.count {text before digits after : List Char}
    (run : OneRun text before digits after) : text.countP Text.isDigit = digits.length := by
  have none : ∀ part : List Char, (∀ c ∈ part, Text.isDigit c = false) →
      part.countP Text.isDigit = 0 := by
    intro part no
    rw [List.countP_eq_zero]
    intro c member digit
    rw [no c member] at digit
    cases digit
  rw [run.whole, List.countP_append, List.countP_append, none before run.before,
    none after run.after, List.countP_eq_length.mpr run.digits, Nat.zero_add, Nat.add_zero]

theorem wordNoDigit {word text : List Char}
    (letters : ∀ l ∈ word, Text.isDigit (Text.caseKey l) = false)
    (read : ∀ c ∈ text, ∃ l ∈ word, Text.hasKey (Text.caseKey l) c = true) :
    ∀ c ∈ text, Text.isDigit c = false := by
  intro c member
  obtain ⟨l, known, key⟩ := read c member
  exact Text.letterNoDigit (letters l known) key

theorem spacingOneRun {declared : List Char} (takes : spacingDeclaration.Takes declared) :
    ∃ before digits after, OneRun declared before digits after := by
  have plain : ("padding".toList ++ "margin:".toList ++ "px".toList).all
      (fun l => !Text.isDigit (Text.caseKey l)) = true := by
    decide
  simp only [List.all_append, Bool.and_eq_true, List.all_eq_true, Bool.not_eq_true'] at plain
  obtain ⟨⟨padding, margin⟩, px⟩ := plain
  rcases takes with takes | takes
  · obtain ⟨read, rest, rfl, rfl, all⟩ := lettersTaken takes
    exact ⟨read, [], [], by simp, nofun, wordNoDigit padding all, nofun⟩
  · obtain ⟨read, rest, rfl, takes, all⟩ := lettersTaken takes
    obtain ⟨blanks, rest, rfl, blank, takes⟩ := takes
    obtain ⟨d, rest, rfl, digit, digits, rest, rfl, more, takes⟩ := takes
    obtain ⟨unit, rest, rfl, rfl, ends⟩ := lettersTaken takes
    refine ⟨read ++ blanks, d :: digits, unit, by simp, ?_, ?_, wordNoDigit px ends⟩
    · exact List.forall_mem_cons.mpr ⟨digit, more⟩
    · refine List.forall_mem_append.mpr ⟨wordNoDigit margin all, ?_⟩
      exact fun c member => Text.blankNoDigit (blank c member)

theorem spacingRefused {text declared : List Char}
    (found : declared ∈ spacingDeclaration.findAll text) :
    (∃ e, pixels declared = .error e) ↔ maxDigits < declared.countP Text.isDigit := by
  obtain ⟨before, digits, after, run⟩ := spacingOneRun (findAllTaken found).1
  rw [pixelsRefused, run.first, run.count]

end Check

end PageAudit
