import PageAudit.Proofs.Check.Linewise
import PageAudit.Proofs.Check.Located
import PageAudit.Proofs.Check.Scanned
/-!
What a snippet shows of the tag it is about. It is cut after so many characters, so the tag is in it
exactly if the text from the first line that is shown up to the end of the tag is short enough.
-/
namespace PageAudit.Check

open Pattern

def untoldTags (s : Subject) : List (List Char) :=
  (s.findAll imgTag).filter fun img => !imgWithAlt.occursIn img

section
variable {s : Subject} {markup word text passed after part start tag : List Char}
  {t u : Trail} {context : Nat}

theorem sliceAround {α : Type} (above : List α) (item : α) (below : List α) (context : Nat) :
    ∃ more, slice (above ++ item :: below) (max 0 ((above.length : Int) - context))
      (min (above ++ item :: below).length ((above.length : Int) + context + 1)) =
        above.drop (above.length - context) ++ item :: more := by
  obtain ⟨k, stop⟩ : ∃ k, (min ((above ++ item :: below).length : Int)
      ((above.length : Int) + context + 1)).toNat = above.length + (k + 1) := by
    refine Nat.exists_eq_add_of_lt ?_ |>.imp fun k same => by omega
    rw [List.length_append, List.length_cons]
    omega
  have start : (max 0 ((above.length : Int) - context)).toNat = above.length - context := by omega
  refine ⟨below.take k, ?_⟩
  rw [sliceForward (Int.le_max_left ..) (by omega), start, stop, List.take_length_add_append,
    List.take_succ_cons, List.drop_append_of_le_length (Nat.sub_le _ _)]

theorem aroundPlace (single : '\n' ∉ part) (passed after : List Char) (context : Nat) :
    ∃ more, linesAround (passed ++ (part ++ after)) (passed.count '\n') context =
      Text.lastLines context passed ++ (part ++ more) := by
  obtain ⟨above, start, left, count, -⟩ := Text.linesApart passed
  obtain ⟨first, below, right, ⟨finish, rfl⟩⟩ := Text.linesStart single after
  obtain ⟨shown, around⟩ := sliceAround above (start ++ (part ++ finish)) below context
  obtain ⟨more, joined⟩ := Text.joinedFirst (start ++ (part ++ finish)) shown
  refine ⟨finish ++ more, ?_⟩
  rw [linesAround, Text.linesTogether left right, ← count, around, Text.joinedBehind, joined,
    Text.lastLinesEnded left count]
  simp

/- Where the word is read first in the text, it is read first in any end of what stands before. -/
theorem cutHolds (leftmost : Leftmost (ofText word) ' ' text passed (part ++ after) t)
    (keys : part.map Text.caseKey = word.map Text.caseKey) (near : start <:+ passed) (n : Nat)
    (more : List Char) : Text.holdsLike word ((start ++ (part ++ more)).take n) = true ↔
      start.length + word.length ≤ n := by
  obtain ⟨far, rfl⟩ := near
  constructor
  · intro holds
    obtain ⟨before, read, rest, cut, same⟩ := Text.holdsExactly.mp holds
    by_contra long
    have bound := congrArg List.length cut
    simp only [List.length_take, List.length_append, keysLength same] at bound
    -- The word would start before the place and end before what stands there does.
    obtain ⟨behind, split⟩ : before ++ read <+: start ++ part := by
      refine List.prefix_of_prefix_length_le (?_ : _ <+: start ++ (part ++ more)) ?_ ?_
      · exact ⟨rest ++ (start ++ (part ++ more)).drop n, by
          rw [← List.append_assoc, List.append_assoc before, ← cut, List.take_append_drop]⟩
      · exact ⟨more, List.append_assoc ..⟩
      · rw [List.length_append, List.length_append, keysLength same, keysLength keys]
        omega
    have whole : text = (far ++ before) ++ (read ++ (behind ++ after)) := by
      rw [leftmost.whole]
      simp only [List.append_assoc] at split ⊢
      rw [← List.append_assoc start, ← split]
      simp
    have early := (leftmost.early whole (textReads.mpr ⟨read, _, rfl, same, rfl⟩)).length_le
    rw [List.length_append, List.length_append] at early
    omega
  · intro short
    refine Text.holdsExactly.mpr ⟨start, part, more.take (n - (start ++ part).length), ?_, keys⟩
    have inside : (start ++ part).length ≤ n := by rwa [List.length_append, keysLength keys]
    rw [← List.append_assoc, List.take_append, List.take_of_length_le inside, List.append_assoc]

def Angled (text : List Char) : Prop := ∃ inside, text = '<' :: (inside ++ ['>'])

theorem untoldAngled (member : tag ∈ untoldTags s) : Angled tag := by
  have listed : tag ∈ s.findAll imgTag := (List.mem_filter.mp member).1
  rw [imagesFound, List.mem_filterMap] at listed
  obtain ⟨piece, -, found⟩ := listed
  obtain ⟨found, first, rfl⟩ := Option.map_eq_some_iff.mp found
  obtain ⟨read, rest, rfl, keys⟩ := Text.startsExactly.mp (Text.fromFound first).2
  cases read with
  | nil => cases keys
  | cons c read =>
    obtain rfl : c = '<' := Text.lowKey (by decide) (by decide) (List.cons.inj keys).1
    exact ⟨read ++ rest, by simp⟩

theorem angledAlike (angled : Angled word)
    (keys : part.map Text.caseKey = word.map Text.caseKey) : Angled part := by
  obtain ⟨inside, rfl⟩ := angled
  rw [List.map_cons, List.map_append, List.map_singleton] at keys
  obtain ⟨c, rest, rfl, opens, keys⟩ := List.map_eq_cons_iff.mp keys
  obtain ⟨inside', last, rfl, -, keys⟩ := List.map_eq_append_iff.mp keys
  obtain ⟨d, rfl, closes⟩ := List.map_eq_singleton_iff.mp keys
  obtain rfl := Text.lowKey (by decide) (by decide) opens
  obtain rfl := Text.lowKey (by decide) (by decide) closes
  exact ⟨inside', rfl⟩

theorem trimAround (angled : Angled part) (before after : List Char) :
    Text.trim (before ++ (part ++ after)) =
      before.dropWhile Text.isBlank ++ (part ++ Text.trimEnd after) := by
  obtain ⟨inside, rfl⟩ := angled
  have opens : ('<' :: (inside ++ ['>']) ++ after).dropWhile Text.isBlank =
      '<' :: (inside ++ ['>']) ++ after := rfl
  have stops : before.dropWhile Text.isBlank ++ ('<' :: (inside ++ ['>']) ++ after) =
      (before.dropWhile Text.isBlank ++ '<' :: inside) ++ '>' :: after := by simp
  have shown : (before ++ ('<' :: (inside ++ ['>']) ++ after)).dropWhile Text.isBlank =
      before.dropWhile Text.isBlank ++ ('<' :: (inside ++ ['>']) ++ after) := by
    rw [List.dropWhile_append, opens]
    split
    · rename_i blank
      rw [List.isEmpty_iff.mp blank, List.nil_append]
    · rfl
  rw [Text.trim, shown, stops, Text.trimEndKept (by decide)]
  simp

structure Shows (markup word : List Char) (context : Nat) (e : Evidence) (passed : List Char) :
    Prop where
  place : ∃ rest t, Leftmost (ofText word) ' ' markup passed rest t
  line : e.line = passed.count '\n' + 1
  whole : Text.holdsLike word e.snippet.toList = true ↔
    ((Text.lastLines context passed).dropWhile Text.isBlank).length + word.length ≤ 500

theorem excerptShows (angled : Angled word) {e : Evidence}
    (found : excerpt markup (.ofText word) context = some e) :
    ∃ passed, Shows markup word context e passed := by
  have single : '\n' ∉ word := fun split => by
    rw [splitUnshown split] at found
    cases found
  obtain ⟨passed, rest, t, leftmost, -, line⟩ :=
    (excerptLocatesFirst (textLinewise single) _).line e found
  obtain ⟨part, after, rfl, keys, -⟩ := textReads.mp (runReads leftmost.matched)
  refine ⟨passed, ⟨_, t, leftmost⟩, line, ?_⟩
  have free : '\n' ∉ part := fun member =>
    single (Text.markHeld (by decide) (by decide) (by decide) member (Text.holdsExactly.mpr
      ⟨[], word, [], by simp, keys.symm⟩))
  obtain ⟨i, -, rfl⟩ := Option.map_eq_some_iff.mp found
  obtain rfl : i = passed.count '\n' := Nat.succ.inj line
  obtain ⟨more, around⟩ := aroundPlace free passed after context
  rw [snippetChars, leftmost.whole, around, trimAround (angledAlike angled keys)]
  exact cutHolds leftmost keys ((List.dropWhile_suffix _).trans (Text.lastLinesSuffix _ _)) _ _

theorem untoldExcerpt {v : Verdict} (ended : altText s = .ok v) :
    v.passed = (untoldTags s).isEmpty ∧ v.evidence =
      (untoldTags s).head?.bind fun tag => excerpt s.markup (.ofText tag) 1 := by
  obtain ⟨evidence, shown, same⟩ := bindOk.mp ended
  obtain rfl := Except.ok.inj same
  refine ⟨rfl, ?_⟩
  change s.excerptOfFirst (!(untoldTags s).isEmpty) (untoldTags s) 1 = .ok evidence at shown
  change evidence = _
  cases tags : untoldTags s with
  | nil =>
    rw [tags] at shown
    exact (Except.ok.inj shown).symm
  | cons tag more =>
    rw [tags] at shown
    exact (Except.ok.inj shown).symm

/- What is cut off is what the lines that are shown have beyond so many characters. -/
theorem untoldTagShown (s : Subject) :
    ∃ check v, checks.find? "wcag-001" = some check ∧ check.run s = .ok v ∧
      (v.passed = false ↔ untoldTags s ≠ []) ∧
      ∀ e, v.evidence = some e → ∃ tag passed, (untoldTags s).head? = some tag ∧
        Shows s.markup tag 1 e passed := by
  obtain ⟨v, ended⟩ := failingRun "alt text" (altTextSure s)
  obtain ⟨judged, shown⟩ := untoldExcerpt (failingEnded ended)
  refine ⟨_, v, rfl, ended, judged ▸ List.isEmpty_eq_false_iff, fun e located => ?_⟩
  rw [shown] at located
  obtain ⟨tag, first, located⟩ := Option.bind_eq_some_iff.mp located
  obtain ⟨passed, shows⟩ := excerptShows (untoldAngled (List.mem_of_mem_head? first)) located
  exact ⟨tag, passed, first, shows⟩

theorem lateTagUnshown :
    let tag := "<img>".toList
    let s : Subject := ⟨List.replicate 500 'x' ++ tag, .empty, "https://a.b/"⟩
    (untoldTags s).head? = some tag ∧ tag.length ≤ 500 ∧
      ∃ check v e, checks.find? "wcag-001" = some check ∧ check.run s = .ok v ∧
        v.passed = false ∧ v.evidence = some e ∧ Text.holdsLike tag e.snippet.toList = false := by
  intro tag s
  have first : (untoldTags s).head? = some tag := by decide +kernel
  have line : lineOf? (Text.lines s.markup) (.ofText tag) = some 0 := by decide +kernel
  obtain ⟨v, ended⟩ := failingRun "alt text" (altTextSure s)
  obtain ⟨judged, shown⟩ := untoldExcerpt (failingEnded ended)
  have failed : v.passed = false := judged.trans (findsFilled first)
  rw [first, Option.bind_some, excerpt, line] at shown
  refine ⟨first, by decide, _, v, _, rfl, ended, failed, shown, ?_⟩
  rw [snippetChars]
  decide +kernel

end

end PageAudit.Check
