import PageAudit.Proofs.Check.Numbers
import PageAudit.Proofs.Check.Passing
import PageAudit.Proofs.Pattern.Extent
import PageAudit.Proofs.Pattern.Group
import PageAudit.Proofs.Pattern.Growing
/-!
Numbers that do not fall when markup follows. New markup may merge the last match with what comes,
but it never takes away a match without putting another one in its place.
-/
namespace PageAudit

def Subject.followed (s : Subject) (more : List Char) : Subject :=
  { s with markup := s.markup ++ more }

def Growing (n : Subject → Nat) : Prop := ∀ s more, n s ≤ n (Subject.followed s more)

section
variable {n m : Subject → Nat} {p : Pattern}

theorem growingAdd (first : Growing n) (second : Growing m) : Growing fun s => n s + m s :=
  fun s more => Nat.add_le_add (first s more) (second s more)

theorem growingMarkup : Growing (·.markup.length) := by
  intro s more
  dsimp only [Subject.followed]
  rw [List.length_append]
  exact Nat.le_add_right ..

theorem growingCount (followed : p.Followed) (filled : ¬p.Takes []) (single : p.Single) :
    Growing (·.count p) :=
  fun s more => Pattern.countFollowed followed filled single s.markup more

theorem hasFollowed {s : Subject} (grows : p.growing = true) (more : List Char)
    (there : s.has p = true) : (s.followed more).has p = true :=
  Pattern.occursFollowed (Pattern.growingFollowed grows) more there

theorem growingPresent {names : List String} {pattern : String → Pattern}
    (grows : ∀ name ∈ names, (pattern name).growing = true) :
    Growing fun s =>
      ((names.map fun name => (name, s.has (pattern name))).filter Prod.snd).length := by
  intro s more
  dsimp only
  rw [← List.countP_eq_length_filter, ← List.countP_eq_length_filter, List.countP_map,
    List.countP_map]
  exact List.countP_mono_left fun name member => hasFollowed (grows name member) more

end

namespace Check

open Pattern

section
variable {kinds : List (Char → Bool)} {next : Pattern}

theorem tagOnes (name : String) : tag name =
    ones (lettered ("<" ++ name)) (many (except ['>']) (one (· == '>') done)) := by
  rw [← lettersOnes]
  rfl

theorem tagNearest {name : String} (free : (of [letters ("<" ++ name), inTag]).avoids '>' = true) :
    Nearest (tag name) := by
  refine endedNearest (· == '>') fun part takes => ?_
  have free : (ones (lettered ("<" ++ name)) (many (except ['>']) done)).avoids '>' = true := by
    rw [← lettersOnes]
    exact free
  rw [tagOnes] at takes
  exact bracketEnds free takes

theorem inTagSingle (reads : next.reading = true) (filled : kinds ≠ [])
    (free : (ones kinds (inTag next)).avoids '>' = true) : Single (ones kinds (inTag next)) := by
  refine farthestSingle reads filled fun part takes c member => ?_
  have other : c ≠ '>' := fun same => takesAvoids free takes (same ▸ member)
  simp [except, other]

theorem imgTagGrows : Growing (·.count imgTag) :=
  growingCount (growingFollowed (by decide)) oneFilled
    (quietSingle (nearestQuiet (tagNearest (by decide))))

theorem scriptTagGrows : Growing (·.count (tag "script")) :=
  growingCount (growingFollowed (by decide)) oneFilled
    (quietSingle (nearestQuiet (tagNearest (by decide))))

theorem sourcedScriptGrows : Growing (·.count sourcedScript) := by
  refine growingCount (growingFollowed (by decide)) oneFilled ?_
  have shape : sourcedScript = ones (lettered "<script") (inTag (letters "src=" done)) := by
    rw [← lettersOnes]
    rfl
  rw [shape]
  exact inTagSingle (by decide) (by decide) (by decide)

theorem someInTagOnes (word : String) (next : Pattern) :
    letters word (someInTag next) = ones (lettered word ++ [except ['>']]) (inTag next) := by
  rw [lettersOnes, ones, ones, List.foldr_append]
  rfl

theorem stylesheetLinkGrows : Growing (·.count stylesheetLink) := by
  refine growingCount (growingFollowed (by decide)) oneFilled ?_
  have shape : stylesheetLink =
      ones (lettered "<link" ++ [except ['>']]) (inTag (valued "rel" "stylesheet" done)) := by
    rw [← someInTagOnes]
    rfl
  rw [shape]
  exact inTagSingle (by decide) (by simp) (by decide)

theorem preloadedFontGrows : Growing (·.count preloadedFont) := by
  refine growingCount (growingFollowed (by decide)) oneFilled ?_
  have shape : preloadedFont = ones (lettered "<link" ++ [except ['>']])
      (inTag (valued "rel" "preload" (someInTag (valued "as" "font" done)))) := by
    rw [← someInTagOnes]
    rfl
  rw [shape]
  exact inTagSingle (by decide) (by simp) (by decide)

theorem inlineScriptOnes : inlineScript =
    ones (lettered "<script") (lacking (of [inTag, letters "src="]) (many (except ['>'])
      (one (· == '>') (few anyChar (ones (lettered "</script>") done))))) := by
  rw [← lettersOnes, ← lettersOnes]
  rfl

theorem inlineScriptFollowed : Followed inlineScript := by
  rw [inlineScriptOnes]
  refine followedOnes _ (followedLacking (growingFollowed (by decide))
    (growingFollowed (by decide)) fun far near takesFar takesNear short => ?_)
  have none : '>' ∉ far := takesAvoids (by decide) takesFar
  obtain ⟨tagged, after, rfl, -, c, after, rfl, bracket, -⟩ := takesNear
  refine none (short.subset (List.mem_append_right tagged ?_))
  rw [beq_iff_eq.mp bracket]
  exact List.mem_cons_self

theorem inlineScriptGrows : Growing (·.count inlineScript) := by
  refine growingCount inlineScriptFollowed oneFilled
    (quietSingle (nearestQuiet ?_))
  rw [inlineScriptOnes]
  exact closedNearest (by decide)

theorem asciiDigit {c : Char} (digit : c.isDigit = true) : Text.isDigit c = true := by
  have small : c.toNat < 128 := by
    simp only [Char.isDigit, Bool.and_eq_true, decide_eq_true_eq] at digit
    have low : c.val.toNat ≤ 57 := UInt32.le_iff_toNat_le.mp digit.2
    exact Nat.lt_of_le_of_lt low (by decide)
  rw [Text.isDigit, Text.digitValue?, if_pos small, if_pos digit]
  rfl

structure FontSize (text start digits : List Char) (p x : Char) : Prop where
  whole : text = start ++ (digits ++ [p, x])
  start : ∀ c ∈ start, Text.isDigit c = false ∧ Text.hasKey (Text.caseKey 'x') c = false
  digits : ∀ c ∈ digits, Text.isDigit c = true
  unit : Text.hasKey (Text.caseKey 'p') p = true ∧ Text.hasKey (Text.caseKey 'x') x = true

theorem fontSizeOnes : fontSize = ones (lettered "font-size:") (many Text.isBlank (opening
    (one Char.isDigit (many Char.isDigit (closing (one (Text.hasKey (Text.caseKey 'p'))
      (one (Text.hasKey (Text.caseKey 'x')) done))))))) := by
  rw [← lettersOnes]
  rfl

theorem fontSizeStart {head blanks : List Char}
    (takes : (ones (lettered "font-size:") done).Takes head)
    (blank : ∀ c ∈ blanks, Text.isBlank c = true) :
    ∀ c ∈ head ++ blanks, Text.isDigit c = false ∧ Text.hasKey (Text.caseKey 'x') c = false := by
  have plain : "font-size:".toList.all (fun l =>
      !Text.isDigit (Text.caseKey l) && Text.caseKey l != Text.caseKey 'x') = true := by
    decide
  rw [← lettersOnes] at takes
  obtain ⟨read, after, rfl, rfl, all⟩ := lettersTaken takes
  intro c member
  rw [List.append_nil] at member
  rcases List.mem_append.mp member with known | empty
  · obtain ⟨l, letter, key⟩ := all c known
    have both := List.all_eq_true.mp plain l letter
    simp only [Bool.and_eq_true, Bool.not_eq_true', bne_iff_ne] at both
    refine ⟨Text.letterNoDigit both.1 key, ?_⟩
    rw [Text.hasKey, beq_iff_eq.mp key]
    exact beq_eq_false_iff_ne.mpr both.2
  · have white := blank c empty
    refine ⟨Text.blankNoDigit white, ?_⟩
    rw [Text.hasKey, Text.blankKey white, beq_eq_false_iff_ne]
    rintro rfl
    exact absurd white (by decide)

theorem digitsFrom {d : Char} {digits : List Char} (digit : d.isDigit = true)
    (more : ∀ c ∈ digits, c.isDigit = true) : ∀ c ∈ d :: digits, Text.isDigit c = true :=
  List.forall_mem_cons.mpr ⟨asciiDigit digit, fun c member => asciiDigit (more c member)⟩

theorem fontSizeTaken {part : List Char} (takes : fontSize.Takes part) :
    ∃ start digits p x, FontSize part start digits p x := by
  rw [fontSizeOnes] at takes
  obtain ⟨head, after, rfl, takesHead, passed, after, rfl, blank, d, after, rfl, digit, digits,
    after, rfl, more, p, after, rfl, keyP, x, after, rfl, keyX, rfl⟩ := takesOnes.mp takes
  exact ⟨head ++ passed, d :: digits, p, x, by simp, fontSizeStart takesHead blank,
    digitsFrom digit more, keyP, keyX⟩

theorem FontSize.ends {text start digits : List Char} {p x : Char}
    (size : FontSize text start digits p x) : EndsAt (Text.hasKey (Text.caseKey 'x')) text := by
  refine ⟨start ++ (digits ++ [p]), x, by simp [size.whole], size.unit.2, fun c member => ?_⟩
  simp only [List.mem_append, List.mem_singleton] at member
  rcases member with known | digit | rfl
  · exact (size.start c known).2
  · rw [Text.hasKey, Text.digitKey (size.digits c digit), beq_eq_false_iff_ne]
    rintro rfl
    exact absurd (size.digits _ digit) (by decide)
  · rw [Text.hasKey, beq_iff_eq.mp size.unit.1]
    decide

theorem FontSize.first {text start digits : List Char} {p x : Char}
    (size : FontSize text start digits p x) : firstDigits text = digits := by
  refine OneRun.first ⟨size.whole, size.digits, fun c member => (size.start c member).1, ?_⟩
  refine List.forall_mem_cons.mpr ⟨?_, List.forall_mem_singleton.mpr ?_⟩
  · exact Text.letterNoDigit (by decide) size.unit.1
  · exact Text.letterNoDigit (by decide) size.unit.2

theorem fontSizeGroup {m : Match} {text : List Char} (member : m ∈ fontSize.matches? text) :
    m.group = firstDigits m.text := by
  rw [matchesScan] at member
  obtain ⟨before, rest, t, found⟩ := scanFound member
  have matched := found.matched
  rw [fontSizeOnes] at matched
  obtain ⟨head, after, rfl, takesHead, ran⟩ := runOnes matched
  obtain ⟨passed, after, rfl, blank, d, after, rfl, digit, digits, after, rfl, more, p, after, rfl,
    keyP, x, after, rfl, keyX, reached⟩ := runReads ran
  obtain rfl : t = _ := reached
  have size : FontSize m.text (head ++ passed) (d :: digits) p x := by
    refine ⟨?_, fontSizeStart takesHead blank, digitsFrom digit more, keyP, keyX⟩
    have split : head ++ (passed ++ d :: (digits ++ p :: x :: after)) =
        head ++ passed ++ (d :: digits ++ [p, x]) ++ after := by
      simp
    rw [found.same, split]
    refine List.take_left' ?_
    simp only [Trail.step, Trail.overTaken, Trail.start, List.length_append, List.length_cons,
      List.length_nil]
    omega
  rw [size.first, found.same]
  simp only [Trail.found, Trail.group, Trail.step, overGroup, Trail.overTaken]
  rw [← List.cons_append]
  refine List.take_left' ?_
  rw [List.length_cons]
  omega

theorem fontSizeNearest : Nearest fontSize := by
  refine endedNearest (Text.hasKey (Text.caseKey 'x')) fun part takes => ?_
  obtain ⟨start, digits, p, x, size⟩ := fontSizeTaken takes
  exact size.ends

theorem fontSizesRead (s : Subject) :
    fontSizes s = (s.findAll fontSize).mapM fun text => readNumber (firstDigits text) := by
  rw [fontSizes, Subject.findAll, findAll, List.mapM_map]
  refine mapMAlike fun m member => ?_
  rw [Function.comp_apply, fontSizeGroup member]

theorem fontSizesFollowed (s : Subject) (more : List Char) :
    s.findAll fontSize <+: (s.followed more).findAll fontSize :=
  findAllFollowed (growingFollowed (by decide)) oneFilled
    (nearestQuiet fontSizeNearest) s.markup more

end

end Check

end PageAudit
