import PageAudit.Proofs.Failure
import PageAudit.Proofs.Terminal.Markup
/-!
A word among texts with tags. What it shows ends where the word ends, and if a tag starts in it, it
shows fewer of the characters that are not tame than it has.
-/
namespace PageAudit

namespace Terminal

def texts (pieces : List MarkupPiece) : List Char :=
  pieces.flatMap fun
    | .text cs => cs
    | .tag _ _ => []

/-- What the pieces before the end of a word and the text that is left there make of a text that was
put aside and of the word. -/
structure Parted (plain word : List Char) (skip : Nat) (pieces : List MarkupPiece)
    (left : List Char) : Prop where
  subset : texts pieces ++ left ⊆ plain ++ word
  fewer : wild (texts pieces ++ left) ≤ wild (plain ++ word.drop skip)
  tagged : untagged (word.drop skip) = false →
    wild (texts pieces ++ left) < wild (plain ++ word.drop skip)

structure Ends (tail : List Char) : Prop where
  closed : Sealed tail
  slashless : tail.head? ≠ some '\\'
  bracketless : tail.head? ≠ some '['

inductive Reads (opened : List String) (pieces : List MarkupPiece) : Prop
  | fails (e : MarkupError) (same : ∀ others, readPieces opened (pieces ++ others) = .error e)
  | goesOn (styles : List String) (first : List Char)
    (same : ∀ others, readPieces opened (pieces ++ others) =
      (readPieces styles others).map (first ++ ·))
    (fewer : wild first ≤ wild (texts pieces))
    (known : ∀ c ∈ first, c ∈ texts pieces ∨ isTame c = true ∧ c ≠ ' ')

section
variable {c gap : Char} {text tail tag word rest out plain left : List Char}
  {pieces : List MarkupPiece} {opened : List String} {skip slashes : Nat}

theorem tagTextSplit (found : tagText? text = some tag) : ∃ rest, text = tag ++ ']' :: rest := by
  cases text with
  | nil => cases found
  | cons c text =>
    rw [tagTextCons] at found
    split at found
    · rename_i written
      obtain ⟨-, ended⟩ := Bool.and_eq_true_iff.mp written
      obtain ⟨rest, split⟩ := List.head?_eq_some_iff.mp (beq_iff_eq.mp ended)
      obtain rfl := Option.some.inj found
      refine ⟨rest, ?_⟩
      rw [← split, List.cons_append, List.takeWhile_append_dropWhile]
    · cases found

theorem Ends.follows (ends : Ends tail) (text : List Char) : Follows text tail :=
  ⟨ends.closed, ends.slashless, fun same => absurd same ends.bracketless⟩

theorem endsGap (blank : Text.isBlank gap = true) (closed : Sealed (gap :: tail)) :
    Ends (gap :: tail) where
  closed := closed
  slashless same := (blankOther blank).2.2 (Option.some.inj same)
  bracketless same := (blankOther blank).2.1 (Option.some.inj same)

theorem endsNothing : Ends [] := ⟨nofun, nofun, nofun⟩

theorem tagAtEnds (ends : Ends tail) (text : List Char) : tagAt? (text ++ tail) = tagAt? text := by
  induction text with
  | nil =>
    cases tail with
    | nil => rfl
    | cons c tail =>
      exact tagAtOther (fun same => ends.slashless (congrArg some same))
        fun same => ends.bracketless (congrArg some same)
  | cons c text ih =>
    rw [List.cons_append]
    by_cases slash : c = '\\'
    · subst slash
      rw [tagAtSlash, tagAtSlash, ih]
    · by_cases bracket : c = '['
      · subst bracket
        rw [tagAtBracket, tagAtBracket, tagTextSealed ends.closed]
      · rw [tagAtOther slash bracket, tagAtOther slash bracket]

theorem tagAtSplit (found : tagAt? text = some (slashes, tag)) :
    ∃ rest, text = (List.replicate slashes '\\' ++ ('[' :: tag ++ [']'])) ++ rest := by
  induction text generalizing slashes with
  | nil => cases found
  | cons c text ih =>
    by_cases slash : c = '\\'
    · subst slash
      rw [tagAtSlash] at found
      obtain ⟨⟨fewer, inside⟩, later, same⟩ := Option.map_eq_some_iff.mp found
      obtain ⟨rfl, rfl⟩ := Prod.mk.inj same
      obtain ⟨rest, rfl⟩ := ih later
      exact ⟨rest, rfl⟩
    · by_cases bracket : c = '['
      · subst bracket
        obtain ⟨inside, later, same⟩ := Option.map_eq_some_iff.mp found
        obtain ⟨rfl, rfl⟩ := Prod.mk.inj same
        obtain ⟨rest, rfl⟩ := tagTextSplit later
        exact ⟨rest, by simp⟩
      · rw [tagAtOther slash bracket] at found
        cases found

theorem wildAppend (first second : List Char) : wild (first ++ second) = wild first + wild second :=
  List.countP_append

theorem escapesFewer (text : List Char) : wild (withoutEscapes text) ≤ wild text := by
  rcases wildEscapes text with same | fewer
  · rw [same]
  · exact Nat.le_of_lt fewer

theorem escapesSubset (text : List Char) : withoutEscapes text ⊆ text := by
  fun_induction withoutEscapes text with
  | case1 => exact List.Subset.refl []
  | case2 rest ih => exact List.subset_cons_of_subset '\\' (List.cons_subset_cons '[' ih)
  | case3 c rest other ih => exact List.cons_subset_cons c ih

theorem plainTexts (plain : List Char) :
    texts (plainPiece plain) ⊆ plain ∧ wild (texts (plainPiece plain)) ≤ wild plain := by
  cases plain with
  | nil => exact ⟨List.Subset.refl [], Nat.le_refl 0⟩
  | cons c plain =>
    have whole : texts (plainPiece (c :: plain)) = withoutEscapes (c :: plain).reverse :=
      List.append_nil _
    have turned : wild (c :: plain).reverse = wild (c :: plain) := List.countP_reverse
    rw [whole]
    refine ⟨fun d member => List.mem_reverse.mp (escapesSubset _ member), ?_⟩
    exact turned ▸ escapesFewer _

theorem tagTexts (position slashes : Nat) (tag : List Char) :
    texts (tagPieces position slashes tag) = List.replicate (slashes / 2) '\\' ++
      if slashes % 2 = 1 then '[' :: tag ++ [']'] else [] := by
  unfold tagPieces texts
  dsimp only
  rw [List.flatMap_append]
  split
  · rename_i few
    rw [few]
    split <;> simp
  · split <;> simp

theorem wildSlashes (slashes : Nat) : wild (List.replicate slashes '\\') = slashes := by
  simp [wild, List.countP_replicate, isTame]

theorem tagFewer (position slashes : Nat) (tag : List Char) :
    texts (tagPieces position slashes tag) ⊆
        List.replicate slashes '\\' ++ ('[' :: tag ++ [']']) ∧
      wild (texts (tagPieces position slashes tag)) <
        wild (List.replicate slashes '\\' ++ ('[' :: tag ++ [']'])) := by
  have bracket : wild ('[' :: tag ++ [']']) = wild tag + 1 := by
    rw [wildAppend, wildCons]
    rfl
  have half : List.replicate (slashes / 2) '\\' ⊆ List.replicate slashes '\\' := by
    intro c member
    obtain ⟨some, rfl⟩ := List.mem_replicate.mp member
    exact List.mem_replicate.mpr ⟨by omega, rfl⟩
  rw [tagTexts, wildAppend, wildAppend, wildSlashes, wildSlashes, bracket]
  split
  · rw [bracket]
    refine ⟨List.append_subset.mpr ⟨?_, List.subset_append_right ..⟩, by omega⟩
    exact List.subset_append_of_subset_left _ half
  · rw [List.append_nil]
    exact ⟨List.subset_append_of_subset_left _ half, Nat.lt_of_le_of_lt (Nat.add_zero _).le
      (by omega)⟩

theorem Parted.later (parted : Parted (c :: plain) word 0 pieces left)
    (same : untagged (c :: word) = false → untagged word = false) :
    Parted plain (c :: word) 0 pieces left := by
  have moved : wild ((c :: plain) ++ word) = wild (plain ++ c :: word) := by
    rw [wildAppend, wildAppend, wildCons, wildCons]
    omega
  refine ⟨fun d member => ?_, ?_, fun tagged => ?_⟩
  · simpa [or_left_comm, or_assoc] using parted.subset member
  · exact moved ▸ parted.fewer
  · exact moved ▸ parted.tagged (same tagged)

theorem untaggedStart (tagged : untagged (c :: word) = false) :
    untagged word = false ∨ c = '[' ∧ ∃ tag, tagText? word = some tag := by
  rw [untagged, Bool.and_eq_false_iff, Bool.or_eq_false_iff] at tagged
  rcases tagged with ⟨bracket, tied⟩ | later
  · exact .inr ⟨by simpa using bracket, Option.isSome_iff_exists.mp (by simpa using tied)⟩
  · exact .inl later

theorem Parted.ofTag (parted : Parted [] (word ++ rest) word.length pieces left)
    (same : c :: word = List.replicate slashes '\\' ++ ('[' :: tag ++ [']'])) (position : Nat)
    (plain : List Char) :
    Parted plain (c :: (word ++ rest)) 0
      (plainPiece plain ++ tagPieces position slashes tag ++ pieces) left := by
  obtain ⟨plainIn, plainFewer⟩ := plainTexts plain
  obtain ⟨tagIn, tagLess⟩ := tagFewer position slashes tag
  rw [← same] at tagIn tagLess
  have apart : texts (plainPiece plain ++ tagPieces position slashes tag ++ pieces) ++ left =
      texts (plainPiece plain) ++
        (texts (tagPieces position slashes tag) ++ (texts pieces ++ left)) := by
    simp only [texts, List.flatMap_append, List.append_assoc]
  have behind : wild (texts pieces ++ left) ≤ wild rest := by
    have fewer := parted.fewer
    rwa [List.drop_left, List.nil_append] at fewer
  have less : wild (texts (plainPiece plain ++ tagPieces position slashes tag ++ pieces) ++ left) <
      wild (plain ++ c :: (word ++ rest)) := by
    rw [apart, ← List.cons_append, wildAppend, wildAppend (texts (tagPieces ..)), wildAppend plain,
      wildAppend (c :: word)]
    omega
  refine ⟨?_, Nat.le_of_lt less, fun _ => less⟩
  rw [apart, ← List.cons_append]
  refine List.append_subset.mpr ⟨?_, List.append_subset.mpr ⟨?_, ?_⟩⟩
  · exact List.subset_append_of_subset_left _ plainIn
  · exact List.subset_append_of_subset_right _ (List.subset_append_of_subset_left _ tagIn)
  · exact List.subset_append_of_subset_right _ (List.subset_cons_of_subset c parted.subset)

theorem tagFront {c : Char} {slashes : Nat} {tag : List Char}
    (found : tagAt? (c :: word) = some (slashes, tag)) : ∃ front rest, word = front ++ rest ∧
      c :: front = List.replicate slashes '\\' ++ ('[' :: tag ++ [']']) ∧
      slashes + tag.length + 1 = front.length := by
  obtain ⟨rest, split⟩ := tagAtSplit found
  rcases List.cons_eq_append_iff.mp split with ⟨none, -⟩ | ⟨front, whole, parts⟩
  · simp at none
  · have lengths := congrArg List.length whole
    simp at lengths
    exact ⟨front, rest, parts, whole.symm, by omega⟩

theorem wordRead (within : skip ≤ word.length) (position : Nat) (plain : List Char) :
    ∃ pieces left, Parted plain word skip pieces left ∧
      ∀ tail, Ends tail → piecesFrom skip position plain (word ++ tail) =
        pieces ++ piecesFrom 0 (position + word.length) left tail := by
  induction word generalizing skip position plain with
  | nil =>
    obtain rfl := Nat.le_zero.mp within
    exact ⟨[], plain, ⟨by simp [texts], by simp [texts], nofun⟩, fun _ _ => rfl⟩
  | cons c word ih =>
    rw [List.length_cons, Nat.add_comm word.length, ← Nat.add_assoc]
    cases skip with
    | succ skip =>
      obtain ⟨pieces, left, parted, read⟩ := ih (Nat.le_of_succ_le_succ within) (position + 1) plain
      refine ⟨pieces, left, ⟨fun d member => ?_, parted.fewer, parted.tagged⟩, read⟩
      exact ((List.sublist_cons_self c word).append_left plain).subset (parted.subset member)
    | zero =>
      by_cases starts : (c == '[' || (c == '\\' && plain.head? != some '\\')) = true ∧
          (tagAt? (c :: word)).isSome = true
      -- A tag starts here; the rest of it is what is passed over when the word is read on.
      · obtain ⟨⟨slashes, tag⟩, found⟩ := Option.isSome_iff_exists.mp starts.2
        obtain ⟨front, rest, rfl, whole, length⟩ := tagFront found
        have inside : front.length ≤ (front ++ rest).length := by simp
        obtain ⟨pieces, left, parted, read⟩ := ih inside (position + 1) []
        refine ⟨_, left, parted.ofTag whole position plain, fun tail ends => ?_⟩
        have same := tagAtEnds ends (c :: (front ++ rest))
        rw [List.cons_append] at same ⊢
        rw [piecesFrom, if_pos starts.1, same, found]
        dsimp only
        rw [length, read tail ends]
        simp only [List.append_assoc]
      -- No tag starts here, nor would one if the text behind the word were read with it.
      · obtain ⟨pieces, left, parted, read⟩ := ih (Nat.zero_le _) (position + 1) (c :: plain)
        refine ⟨pieces, left, parted.later fun tagged => ?_, fun tail ends => ?_⟩
        · refine (untaggedStart tagged).resolve_right ?_
          rintro ⟨rfl, tag, tied⟩
          exact starts ⟨rfl, by rw [tagAtBracket, tied]; rfl⟩
        · have same := tagAtEnds ends (c :: word)
          rw [List.cons_append] at same ⊢
          rw [piecesFrom, same, ← read tail ends]
          split
          · rename_i opens
            rw [Option.not_isSome_iff_eq_none.mp fun found => starts ⟨opens, found⟩]
          · rfl

theorem tagStep (opened : List String) (t : Tag) (position : Nat) :
    (∃ e, ∀ others, readPieces opened (.tag t position :: others) = .error e) ∨
      ∃ styles, ∀ others,
        readPieces opened (.tag t position :: others) = readPieces styles others := by
  simp only [readPieces.eq_def opened]
  by_cases closing : t.name.head? = some '/'
  · obtain ⟨name, named⟩ := List.head?_eq_some_iff.mp closing
    simp only [named]
    split
    · cases opened with
      | nil => exact .inl ⟨_, fun _ => rfl⟩
      | cons style opened => exact .inr ⟨opened, fun _ => rfl⟩
    · split
      · exact .inr ⟨_, fun _ => rfl⟩
      · exact .inl ⟨_, fun _ => rfl⟩
  · refine .inr ⟨styleName t.name :: opened, fun others => ?_⟩
    split
    · rename_i named
      exact absurd (congrArg List.head? named) closing
    · rfl

theorem piecesRead (opened : List String) (pieces : List MarkupPiece) : Reads opened pieces := by
  induction pieces generalizing opened with
  | nil =>
    refine .goesOn opened [] (fun others => ?_) (Nat.le_refl 0) nofun
    cases shown : readPieces opened others <;> exact shown
  | cons piece pieces ih =>
    cases piece with
    | text cs =>
      cases ih opened with
      | fails e same =>
        refine .fails e fun others => ?_
        rw [List.cons_append, readPieces, same]
      | goesOn styles first same fewer known =>
        refine .goesOn styles (withEmoji cs ++ first) (fun others => ?_) ?_ ?_
        · rw [List.cons_append, readPieces, same, ← shownTogether]
          cases (readPieces styles others).map (first ++ ·) <;> rfl
        · have apart : texts (.text cs :: pieces) = cs ++ texts pieces := rfl
          rw [apart, wildAppend, wildAppend]
          exact Nat.add_le_add (wildEmoji 0 cs) fewer
        · refine List.forall_mem_append.mpr ⟨fun c member => ?_, fun c member => ?_⟩
          · exact (emojiFrom 0 cs c member).imp_left (List.mem_append_left _)
          · exact (known c member).imp_left (List.mem_append_right _)
    | tag t position =>
      rcases tagStep opened t position with ⟨e, stops⟩ | ⟨styles, moves⟩
      · exact .fails e fun others => stops _
      · cases ih styles with
        | fails e same => exact .fails e fun others => (moves _).trans (same others)
        | goesOn later first same fewer known =>
          exact .goesOn later first (fun others => (moves _).trans (same others)) fewer known

theorem plainFirst (text : List Char) (position : Nat) (plain : List Char) :
    ∃ later pieces, piecesFrom 0 position plain text = plainPiece (later ++ plain) ++ pieces := by
  induction text generalizing position plain with
  | nil => exact ⟨[], [], (List.append_nil _).symm⟩
  | cons c text ih =>
    obtain ⟨later, pieces, read⟩ := ih (position + 1) (c :: plain)
    have longer : piecesFrom 0 (position + 1) (c :: plain) text =
        plainPiece ((later ++ [c]) ++ plain) ++ pieces := by
      rw [read, List.append_assoc, List.singleton_append]
    rw [piecesFrom]
    split
    · split
      · exact ⟨[], _, List.append_assoc ..⟩
      · exact ⟨_, _, longer⟩
    · exact ⟨_, _, longer⟩

theorem plainGap (blank : Text.isBlank gap = true) (text tail : List Char) :
    plainShown (text ++ gap :: tail) = plainShown text ++ gap :: plainShown tail := by
  have emoji := emojiAfterGap blank (Nat.zero_le (withoutEscapes text).length) (withoutEscapes tail)
  rw [plainShown, escapesGap blank, withEmoji, emoji]
  rfl

theorem gapRead (blank : Text.isBlank gap = true) {more : List Char} {position : Nat}
    (read : readPieces opened (piecesFrom 0 position plain (gap :: more)) = .ok out) :
    ∃ rest, out = plainShown plain.reverse ++ gap :: rest := by
  obtain ⟨-, bracket, slash⟩ := blankOther blank
  obtain ⟨later, pieces, split⟩ := plainFirst more (position + 1) (gap :: plain)
  rw [piecesFrom, if_neg (by simp [bracket, slash]), split, readPlain] at read
  obtain ⟨shown, -, rfl⟩ := mapOk.mp read
  have turned : (later ++ gap :: plain).reverse = plain.reverse ++ gap :: later.reverse := by simp
  refine ⟨plainShown later.reverse ++ shown, ?_⟩
  rw [turned, plainGap blank, List.append_assoc, List.cons_append]

theorem plainFrom (text : List Char) :
    ∀ c ∈ plainShown text, c ∈ text ∨ isTame c = true ∧ c ≠ ' ' := by
  intro c member
  exact (emojiFrom 0 _ c member).imp_left fun inside => escapesSubset text inside

theorem Parted.shownFrom {first : List Char} (parted : Parted [] word 0 pieces left)
    (known : ∀ c ∈ first, c ∈ texts pieces ∨ isTame c = true ∧ c ≠ ' ') :
    ∀ c ∈ first ++ plainShown left.reverse, c ∈ word ∨ isTame c = true ∧ c ≠ ' ' := by
  refine List.forall_mem_append.mpr ⟨fun c member => ?_, fun c member => ?_⟩
  · refine (known c member).imp_left fun inside => parted.subset ?_
    exact List.mem_append_left left inside
  · refine (plainFrom _ c member).imp_left fun inside => parted.subset ?_
    exact List.mem_append_right _ (List.mem_reverse.mp inside)

theorem plainFewer (text : List Char) : wild (plainShown text) ≤ wild text :=
  (wildEmoji 0 _).trans (escapesFewer text)

/-- The word shows as it is written: no tag starts in it, no backslash is before a bracket, and no
name between colons stands for an emoji. -/
structure Literal (word : List Char) : Prop where
  untagged : untagged word = true
  unescaped : withoutEscapes word = word
  unnamed : withEmoji word = word

theorem literalShown : Literal word ↔ untagged word = true ∧ plainShown word = word := by
  constructor
  · rintro ⟨free, unescaped, unnamed⟩
    exact ⟨free, by rw [plainShown, unescaped, unnamed]⟩
  · rintro ⟨free, same⟩
    have unescaped : withoutEscapes word = word := by
      refine (wildEscapes word).resolve_right fun fewer => ?_
      have kept : wild (plainShown word) ≤ wild (withoutEscapes word) := wildEmoji 0 _
      rw [same] at kept
      omega
    rw [plainShown, unescaped] at same
    exact ⟨free, unescaped, same⟩

theorem wordShown {more : List Char} {position : Nat} (spaceless : ' ' ∉ word)
    (closed : Sealed (' ' :: more))
    (read : readPieces opened (piecesFrom 0 position [] (word ++ ' ' :: more)) = .ok out) :
    ∃ first rest, out = first ++ ' ' :: rest ∧ ' ' ∉ first ∧
      (∀ c ∈ first, c ∈ word ∨ isTame c = true) ∧ (first = word ↔ Literal word) := by
  have ends : Ends (' ' :: more) := endsGap (by decide) closed
  cases free : untagged word with
  | true =>
    rw [plainRead free (ends.follows word), List.append_nil] at read
    obtain ⟨rest, rfl⟩ := gapRead (by decide) read
    rw [List.reverse_reverse]
    refine ⟨plainShown word, rest, rfl, fun space => ?_, fun c member => ?_, ?_⟩
    · exact (plainFrom word _ space).elim spaceless fun named => named.2 rfl
    · exact (plainFrom word c member).imp_right And.left
    · rw [literalShown, free, eq_self_iff_true, true_and]
  | false =>
    obtain ⟨pieces, left, parted, split⟩ := wordRead (Nat.zero_le word.length) position []
    rw [split _ ends] at read
    cases piecesRead opened pieces with
    | fails e same => cases (same _).symm.trans read
    | goesOn styles first same fewer known =>
      obtain ⟨second, later, rfl⟩ := mapOk.mp ((same _).symm.trans read)
      obtain ⟨rest, rfl⟩ := gapRead (by decide) later
      have less := parted.tagged free
      have each := parted.shownFrom known
      -- Nothing of a tag is shown, so fewer wild characters are shown than the word has.
      have missing : wild (first ++ plainShown left.reverse) < wild word := by
        have shown := plainFewer left.reverse
        have turned : wild left.reverse = wild left := List.countP_reverse
        rw [List.drop_zero, List.nil_append, wildAppend] at less
        rw [wildAppend]
        omega
      refine ⟨first ++ plainShown left.reverse, rest, (List.append_assoc ..).symm, fun space => ?_,
        fun c member => (each c member).imp_right And.left, ?_⟩
      · exact (each _ space).elim spaceless fun named => named.2 rfl
      · refine iff_of_false (fun same => ?_) fun literal => ?_
        · rw [same] at missing
          exact Nat.lt_irrefl _ missing
        · rw [literal.untagged] at free
          cases free

theorem lineFails {e : MarkupError} (fails : readPieces [] (Terminal.pieces word) = .error e)
    (closed : Sealed ('\n' :: rest)) :
    readPieces [] (Terminal.pieces (word ++ '\n' :: rest)) = .error e := by
  obtain ⟨pieces, left, -, split⟩ := wordRead (Nat.zero_le word.length) 0 []
  have alone := split [] endsNothing
  rw [List.append_nil] at alone
  rw [Terminal.pieces, alone] at fails
  rw [Terminal.pieces, split _ (endsGap (by decide) closed)]
  cases piecesRead [] pieces with
  | fails d same => rw [same, ← same, fails]
  | goesOn styles first same fewer known =>
    have shows : piecesFrom 0 (0 + word.length) left [] = plainPiece left ++ [] :=
      (List.append_nil _).symm
    rw [same, shows, readPlain] at fails
    cases fails

theorem lineRead (whole : '\n' ∉ word) (read : readPieces [] (Terminal.pieces word) = .ok out)
    {name : List Char} (style : isStyle name = true) (rest : List Char) :
    ∃ styles first next, '\n' ∉ first ∧
      readPieces [] (Terminal.pieces (word ++ '\n' :: ('[' :: name ++ ']' :: rest))) =
        (readPieces (styleName name :: styles) (piecesFrom 0 next [] rest)).map
          ((first ++ ['\n']) ++ ·) := by
  obtain ⟨pieces, left, parted, split⟩ := wordRead (Nat.zero_le word.length) 0 []
  have alone := split [] endsNothing
  rw [List.append_nil] at alone
  rw [Terminal.pieces, alone] at read
  have closed : Sealed ('\n' :: ('[' :: name ++ ']' :: rest)) :=
    sealedCons (by decide) (sealedBracket _)
  rw [Terminal.pieces, split _ (endsGap (by decide) closed), piecesFrom, if_neg (by simp),
    tagRead (styleInside style).1]
  cases piecesRead [] pieces with
  | fails e same => cases (same _).symm.trans read
  | goesOn styles first same fewer known =>
    rw [same, readPlain, openingRead style, List.reverse_cons, plainGap (by decide), shownTogether]
    have newline : '\n' ∉ first ++ plainShown left.reverse :=
      fun member => (parted.shownFrom known _ member).elim whole fun tame =>
        absurd tame.1 (by decide)
    refine ⟨styles, first ++ plainShown left.reverse, 0 + word.length + 1 + (name.length + 2),
      newline, ?_⟩
    rw [List.append_assoc first]
    rfl

end

end Terminal

end PageAudit
