import PageAudit.Proofs.Terminal.Emoji
import PageAudit.Terminal.Markup
/-!
Text with tags. Text in which no tag starts is read as one piece, a text in a style shows what is
inside, and a word that has a tag in it never shows as it is written.
-/
namespace PageAudit

namespace Terminal

def isInside (c : Char) : Bool := c != ']' && c != '['

def isTag : List Char → Bool
  | [] => false
  | c :: body => startsTag c && body.all isInside

def untagged : List Char → Bool
  | [] => true
  | c :: rest => (c != '[' || (tagText? rest).isNone) && untagged rest

def plainShown (text : List Char) : List Char := withEmoji (withoutEscapes text)

def Sealed (text : List Char) : Prop := (text.dropWhile isInside).head? ≠ some ']'

/-- No tag starts in a text because of what follows it, and none that follows is made plain text. -/
structure Follows (text tail : List Char) : Prop where
  closed : Sealed tail
  slashless : tail.head? ≠ some '\\'
  seam : tail.head? = some '[' → text.getLast? ≠ some '\\'

section
variable {c : Char} {text tail rest tag plain : List Char}

theorem tagTextCons (c : Char) (rest : List Char) : tagText? (c :: rest) =
    if startsTag c && (rest.dropWhile isInside).head? == some ']' then
      some (c :: rest.takeWhile isInside) else none := by
  have split : (rest.takeWhile isInside ++ rest.dropWhile isInside).drop
      (rest.takeWhile isInside).length = rest.dropWhile isInside := List.drop_left
  rw [List.takeWhile_append_dropWhile] at split
  rw [← split]
  rfl

theorem startInside (starts : startsTag c = true) : isInside c = true := by
  unfold isInside
  rw [Bool.and_eq_true, bne_iff_ne, bne_iff_ne]
  refine ⟨?_, ?_⟩ <;> rintro rfl <;> exact absurd starts (by decide)

theorem sealedBracket (rest : List Char) : Sealed ('[' :: rest) :=
  fun same => absurd (Option.some.inj same) (by decide)

theorem sealedCons (inside : isInside c = true) (closed : Sealed text) : Sealed (c :: text) := by
  rw [Sealed, List.dropWhile_cons_of_pos inside]
  exact closed

theorem tagTextSealed (closed : Sealed tail) (text : List Char) :
    tagText? (text ++ tail) = tagText? text := by
  unfold Sealed at closed
  cases text with
  | nil =>
    cases tail with
    | nil => rfl
    | cons c tail =>
      rw [List.nil_append, tagTextCons]
      refine if_neg fun found => ?_
      obtain ⟨starts, ended⟩ := Bool.and_eq_true_iff.mp found
      rw [List.dropWhile_cons_of_pos (startInside starts)] at closed
      exact closed (beq_iff_eq.mp ended)
  | cons c text =>
    rw [List.cons_append, tagTextCons, tagTextCons, List.dropWhile_append, List.takeWhile_append]
    cases behind : text.dropWhile isInside with
    | nil => simp [closed]
    | cons d more =>
      have lengths := congrArg List.length (List.takeWhile_append_dropWhile (p := isInside) (l := text))
      rw [behind, List.length_append, List.length_cons] at lengths
      rw [if_neg (by omega : (text.takeWhile isInside).length ≠ text.length)]
      rfl

theorem tagAtSlash (text : List Char) :
    tagAt? ('\\' :: text) = (tagAt? text).map fun (slashes, tag) => (slashes + 1, tag) := by
  unfold tagAt?
  simp only [List.takeWhile_cons, beq_self_eq_true, if_true, List.length_cons, List.drop_succ_cons]
  split
  · simp only [Option.map_map]
    rfl
  · rfl

theorem tagAtBracket (rest : List Char) :
    tagAt? ('[' :: rest) = (tagText? rest).map fun tag => (0, tag) := rfl

theorem tagAtOther (slashless : c ≠ '\\') (other : c ≠ '[') : tagAt? (c :: rest) = none := by
  unfold tagAt?
  rw [List.takeWhile_cons_of_neg (by simpa using slashless)]
  simp only [List.length_nil, List.drop_zero]
  split
  · rename_i same
    exact absurd (List.cons.inj same).1 other
  · rfl

theorem Follows.later (follows : Follows (c :: text) tail) : Follows text tail where
  closed := follows.closed
  slashless := follows.slashless
  seam opened ended := follows.seam opened (by simp [List.getLast?_cons, ended])

theorem tagAtNone (free : untagged text = true) (follows : Follows text tail) (filled : text ≠ []) :
    tagAt? (text ++ tail) = none := by
  induction text with
  | nil => exact absurd rfl filled
  | cons c text ih =>
    obtain ⟨here, later⟩ := Bool.and_eq_true_iff.mp free
    by_cases slash : c = '\\'
    · subst slash
      rw [List.cons_append, tagAtSlash]
      by_cases more : text = []
      · subst more
        cases tail with
        | nil => rfl
        | cons d tail =>
          have slashless : d ≠ '\\' := fun same => follows.slashless (congrArg some same)
          have other : d ≠ '[' := fun same => follows.seam (congrArg some same) rfl
          rw [List.nil_append, tagAtOther slashless other]
          rfl
      · rw [ih later follows.later more]
        rfl
    · by_cases bracket : c = '['
      · subst bracket
        have untied : tagText? text = none := by simpa using here
        rw [List.cons_append, tagAtBracket, tagTextSealed follows.closed, untied]
        rfl
      · exact tagAtOther slash bracket

theorem plainRead (free : untagged text = true) (follows : Follows text tail) (position : Nat)
    (plain : List Char) : piecesFrom 0 position plain (text ++ tail) =
      piecesFrom 0 (position + text.length) (text.reverse ++ plain) tail := by
  induction text generalizing position plain with
  | nil => rfl
  | cons c text ih =>
    have step := ih (Bool.and_eq_true_iff.mp free).2 follows.later (position + 1) (c :: plain)
    have starts := tagAtNone free follows (List.cons_ne_nil c text)
    rw [List.cons_append] at starts ⊢
    rw [piecesFrom, starts]
    simp only [ite_self]
    rw [step, List.reverse_cons, List.append_assoc, List.length_cons, Nat.add_assoc, Nat.add_comm 1]
    rfl

theorem skipRead (text tail : List Char) (position : Nat) (plain : List Char) :
    piecesFrom text.length position plain (text ++ tail) =
      piecesFrom 0 (position + text.length) plain tail := by
  induction text generalizing position with
  | nil => rfl
  | cons c text ih =>
    rw [List.length_cons, List.cons_append, piecesFrom, ih, Nat.add_assoc, Nat.add_comm 1]

theorem tagTextWritten (isTagged : isTag tag = true) (rest : List Char) :
    tagText? (tag ++ ']' :: rest) = some tag := by
  cases tag with
  | nil => cases isTagged
  | cons c body =>
    obtain ⟨starts, inside⟩ := Bool.and_eq_true_iff.mp isTagged
    have all : ∀ c ∈ body, isInside c = true := List.all_eq_true.mp inside
    have closes : (body ++ ']' :: rest).dropWhile isInside = ']' :: rest := by
      rw [List.dropWhile_append_of_pos all]
      rfl
    have kept : (body ++ ']' :: rest).takeWhile isInside = body := by
      rw [List.takeWhile_append_of_pos all, List.takeWhile_cons_of_neg (by decide), List.append_nil]
    rw [List.cons_append, tagTextCons, starts, closes, kept]
    rfl

theorem tagRead (isTagged : isTag tag = true) (position : Nat) (plain rest : List Char) :
    piecesFrom 0 position plain ('[' :: tag ++ ']' :: rest) =
      plainPiece plain ++ .tag (.ofText tag) position ::
        piecesFrom 0 (position + (tag.length + 2)) [] rest := by
  have skipped := skipRead (tag ++ [']']) rest (position + 1) []
  rw [List.length_append, List.length_singleton, List.append_assoc, List.singleton_append] at skipped
  rw [List.cons_append, piecesFrom, tagAtBracket, tagTextWritten isTagged]
  simp only [beq_self_eq_true, Bool.true_or, if_true, Option.map_some, tagPieces, Nat.zero_div,
    Nat.zero_mod, List.nil_append, Nat.zero_add]
  have same : position + 1 + (tag.length + 1) = position + (tag.length + 2) := by omega
  rw [skipped, same, if_neg Nat.zero_ne_one, List.append_assoc]
  rfl

theorem readPlain (opened : List String) (plain : List Char) (rest : List MarkupPiece) :
    readPieces opened (plainPiece plain ++ rest) =
      (readPieces opened rest).map (plainShown plain.reverse ++ ·) := by
  cases plain with
  | nil =>
    change readPieces opened rest = _
    cases readPieces opened rest <;> rfl
  | cons c plain =>
    have text : plainPiece (c :: plain) ++ rest =
        .text (withoutEscapes (c :: plain).reverse) :: rest := rfl
    rw [text, readPieces]
    cases readPieces opened rest <;> rfl

end

theorem bracketless {text : List Char} (free : '[' ∉ text) : withoutEscapes text = text := by
  fun_induction withoutEscapes text with
  | case1 => rfl
  | case2 rest ih => simp at free
  | case3 c rest other ih => rw [ih (List.not_mem_of_not_mem_cons free)]

theorem escapesGap {gap : Char} (blank : Text.isBlank gap = true) (text tail : List Char) :
    withoutEscapes (text ++ gap :: tail) = withoutEscapes text ++ gap :: withoutEscapes tail := by
  obtain ⟨-, bracket, slash⟩ := blankOther blank
  fun_induction withoutEscapes text with
  | case1 =>
    rw [List.nil_append, withoutEscapes]
    · rfl
    · exact fun rest same => absurd same slash
  | case2 rest ih => exact congrArg ('[' :: ·) ih
  | case3 c rest unescaped ih =>
    rw [List.cons_append, withoutEscapes, ih, List.cons_append]
    intro more escape same
    cases rest with
    | nil => exact absurd (List.cons.inj same).1 bracket
    | cons d rest => exact unescaped rest escape (congrArg (· :: rest) (List.cons.inj same).1)

/- Each backslash that is left out is missed among the characters that are not tame. -/
theorem wildEscapes (text : List Char) :
    withoutEscapes text = text ∨ wild (withoutEscapes text) < wild text := by
  fun_induction withoutEscapes text with
  | case1 => exact .inl rfl
  | case2 rest ih =>
    right
    have fewer : wild (withoutEscapes rest) ≤ wild rest := by
      rcases ih with same | fewer
      · rw [same]
      · exact Nat.le_of_lt fewer
    rw [wildCons, wildCons, wildCons, if_neg (by decide), if_neg (by decide)]
    omega
  | case3 c rest other ih =>
    refine ih.imp (congrArg (c :: ·)) fun fewer => ?_
    rw [wildCons, wildCons]
    omega

theorem shownTogether (first second : List Char) (x : Except MarkupError (List Char)) :
    (x.map (second ++ ·)).map (first ++ ·) = x.map ((first ++ second) ++ ·) := by
  cases x with
  | error e => rfl
  | ok shown => exact congrArg Except.ok (List.append_assoc ..).symm

structure Styled where
  style : List Char
  inside : List Char
  named : Bool
  after : List Char

namespace Styled

def closed (s : Styled) : List Char :=
  s.inside ++ ('[' :: ('/' :: if s.named then s.style else []) ++ [']'])

def write (s : Styled) : List Char := '[' :: s.style ++ ']' :: (s.closed ++ s.after)

def shown (s : Styled) : List Char := plainShown s.inside ++ plainShown s.after

end Styled

structure Unmarked (text : List Char) : Prop where
  free : untagged text = true
  ended : text.getLast? ≠ some '\\'

def isStyle (name : List Char) : Bool :=
  isTag name && name.head? != some '/' && !name.contains '='

structure Styled.Fine (s : Styled) : Prop where
  style : isStyle s.style = true
  inside : Unmarked s.inside
  after : Unmarked s.after

section
variable {s : Styled} {parts : List Styled} {lead text : List Char} {opened : List String}

theorem writtenFollows (plain : Unmarked text) (parts : List Styled) :
    Follows text (parts.flatMap Styled.write) := by
  refine ⟨?_, ?_, fun _ => plain.ended⟩
  all_goals
    cases parts with
    | nil => exact nofun
    | cons s parts =>
      exact fun same => absurd (Option.some.inj same) (by decide)

theorem tagName {name : List Char} (free : '=' ∉ name) : (Tag.ofText name).name = name := by
  change name.takeWhile (· != '=') = name
  rw [List.takeWhile_eq_self_iff]
  rintro c member
  simpa using fun same : c = '=' => free (same ▸ member)

theorem styleInside {name : List Char} (style : isStyle name = true) :
    isTag name = true ∧ name.head? ≠ some '/' ∧ '=' ∉ name ∧ name.all isInside = true := by
  simp only [isStyle, Bool.and_eq_true, bne_iff_ne, Bool.not_eq_true', List.contains_eq_mem,
    decide_eq_false_iff_not] at style
  obtain ⟨⟨isTagged, opens⟩, free⟩ := style
  refine ⟨isTagged, opens, free, ?_⟩
  cases name with
  | nil => rfl
  | cons c body =>
    obtain ⟨starts, inside⟩ := Bool.and_eq_true_iff.mp isTagged
    exact Bool.and_eq_true_iff.mpr ⟨startInside starts, inside⟩

theorem openingRead {name : List Char} (style : isStyle name = true) (position : Nat)
    (rest : List MarkupPiece) :
    readPieces opened (.tag (.ofText name) position :: rest) =
      readPieces (styleName name :: opened) rest := by
  obtain ⟨-, opens, free, -⟩ := styleInside style
  rw [readPieces.eq_def]
  simp only [tagName free]
  split
  · exact absurd rfl opens
  · rfl

theorem closingRead {name : List Char} (style : isStyle name = true) (named : Bool)
    (position : Nat) (rest : List MarkupPiece) :
    readPieces (styleName name :: opened)
      (.tag (.ofText ('/' :: if named then name else [])) position :: rest) =
      readPieces opened rest := by
  obtain ⟨-, -, free, -⟩ := styleInside style
  cases named with
  | false => rfl
  | true =>
    rw [if_pos rfl, readPieces.eq_def]
    simp only [tagName (List.not_mem_cons_of_ne_of_not_mem (by decide : '=' ≠ '/') free),
      List.contains_cons, beq_self_eq_true, Bool.true_or, if_true, List.erase_cons_head, ite_self]

theorem closedRead (fine : s.Fine) (opened : List String) (position : Nat) (tail : List Char) :
    ∃ next, readPieces (styleName s.style :: opened) (piecesFrom 0 position [] (s.closed ++ tail)) =
      (readPieces opened (piecesFrom 0 next [] tail)).map (plainShown s.inside ++ ·) := by
  obtain ⟨-, -, -, inside⟩ := styleInside fine.style
  have closing : isTag ('/' :: if s.named then s.style else []) = true := by
    cases s.named with
    | false => rfl
    | true => exact inside
  have bracket (rest : List Char) : Follows s.inside ('[' :: rest) :=
    ⟨sealedBracket rest, by simp, fun _ => fine.inside.ended⟩
  have whole : s.closed ++ tail = s.inside ++ ('[' ::
      (('/' :: if s.named then s.style else []) ++ ']' :: tail)) := by
    simp [Styled.closed]
  rw [whole, plainRead fine.inside.free (bracket _), ← List.cons_append, tagRead closing, readPlain,
    closingRead fine.style, List.append_nil, List.reverse_reverse]
  exact ⟨_, rfl⟩

/- A text in a style leaves the styles that were open, and what stands behind it is read with what
comes next. -/
theorem styledRead (fine : s.Fine) (opened : List String) (position : Nat) (plain tail : List Char)
    (follows : Follows s.after tail) :
    ∃ next, readPieces opened (piecesFrom 0 position plain (s.write ++ tail)) =
      (readPieces opened (piecesFrom 0 next s.after.reverse tail)).map
        ((plainShown plain.reverse ++ plainShown s.inside) ++ ·) := by
  obtain ⟨isTagged, -, -, -⟩ := styleInside fine.style
  have whole : s.write ++ tail = '[' :: s.style ++ ']' :: (s.closed ++ (s.after ++ tail)) := by
    simp [Styled.write]
  obtain ⟨next, read⟩ := closedRead fine opened (position + (s.style.length + 2))
    (s.after ++ tail)
  rw [whole, tagRead isTagged, readPlain, openingRead fine.style, read,
    plainRead fine.after.free follows, shownTogether, List.append_nil]
  exact ⟨_, rfl⟩

theorem partsRead (fine : ∀ s ∈ parts, s.Fine) (position : Nat) (plain : List Char) :
    readPieces opened (piecesFrom 0 position plain (parts.flatMap Styled.write)) =
      .ok (plainShown plain.reverse ++ parts.flatMap Styled.shown) := by
  induction parts generalizing position plain with
  | nil =>
    have alone := readPlain opened plain []
    rw [List.append_nil] at alone
    exact alone
  | cons s parts ih =>
    obtain ⟨first, others⟩ := List.forall_mem_cons.mp fine
    obtain ⟨next, read⟩ := styledRead first opened position plain
      (parts.flatMap Styled.write) (writtenFollows first.after parts)
    rw [List.flatMap_cons, read, ih others, List.flatMap_cons, Styled.shown, List.reverse_reverse]
    simp only [Except.map, List.append_assoc]

theorem shownStyled (start : Unmarked lead) (fine : ∀ s ∈ parts, s.Fine) {text : String}
    (written : text.toList = lead ++ parts.flatMap Styled.write) :
    Terminal.shown text = .ok (plainShown lead ++ parts.flatMap Styled.shown) := by
  unfold Terminal.shown
  dsimp only
  split
  · have pieces := plainRead start.free (writtenFollows start parts) 0 []
    rw [List.append_nil] at pieces
    rw [written, Terminal.pieces, pieces, partsRead fine, List.reverse_reverse]
  · rename_i unbracketed
    cases parts with
    | cons s parts => exact absurd (by simp [written, Styled.write]) unbracketed
    | nil =>
      rw [List.flatMap_nil, List.append_nil] at written ⊢
      rw [written] at unbracketed ⊢
      rw [plainShown, bracketless (by simpa using unbracketed)]

end

section
variable {text tail : List Char}

theorem tameFree (tame : ∀ c ∈ text, isTame c = true) {c : Char} (wild : isTame c = false) :
    c ∉ text := by
  intro member
  rw [tame c member] at wild
  cases wild

theorem untaggedBehind {lead : List Char} (free : '[' ∉ lead) (text : List Char) :
    untagged (lead ++ text) = untagged text := by
  induction lead with
  | nil => rfl
  | cons c lead ih =>
    have other : c ≠ '[' := (List.ne_of_not_mem_cons free).symm
    rw [List.cons_append, untagged, ih (List.not_mem_of_not_mem_cons free), bne_iff_ne.mpr other]
    rfl

theorem untaggedFree (free : '[' ∉ text) : untagged text = true := by
  rw [← List.append_nil text, untaggedBehind free]
  rfl

theorem untaggedAppend (closed : Sealed tail) (text : List Char) :
    untagged (text ++ tail) = (untagged text && untagged tail) := by
  induction text with
  | nil => rfl
  | cons c text ih =>
    rw [List.cons_append, untagged, untagged, ih, tagTextSealed closed, Bool.and_assoc]

theorem unmarkedNothing : Unmarked [] := ⟨rfl, nofun⟩

theorem unmarkedTame (tame : ∀ c ∈ text, isTame c = true) : Unmarked text where
  free := untaggedFree (tameFree tame rfl)
  ended last := tameFree tame rfl (List.mem_of_getLast? last)

theorem tameText (all : text.all isTame = true) : ∀ c ∈ text, isTame c = true :=
  List.all_eq_true.mp all

theorem unmarkedText (all : text.all isTame = true) : Unmarked text :=
  unmarkedTame (tameText all)

theorem plainKept (tame : ∀ c ∈ text, isTame c = true) (colonless : ':' ∉ text) :
    plainShown text = text := by
  rw [plainShown, bracketless (tameFree tame rfl), emojiColonless colonless]

theorem insideTame (tame : ∀ c ∈ text, isTame c = true) (opened : ']' ∉ text) :
    ∀ c ∈ text, isInside c = true := by
  intro c member
  have brackets : c ≠ ']' ∧ c ≠ '[' :=
    ⟨fun same => opened (same ▸ member), fun same => tameFree tame rfl (same ▸ member)⟩
  simpa [isInside] using brackets

theorem sealedTame (tame : ∀ c ∈ text, isTame c = true) (opened : ']' ∉ text) : Sealed text := by
  rw [Sealed, List.dropWhile_eq_nil_iff.mpr (insideTame tame opened)]
  exact nofun

theorem sealedTag (tame : ∀ c ∈ text, isTame c = true) (opened : ']' ∉ text)
    (rest : List Char) : Sealed (text ++ '[' :: rest) := by
  rw [Sealed, List.dropWhile_append_of_pos (insideTame tame opened)]
  exact sealedBracket rest

theorem Unmarked.after (plain : Unmarked text) {lead : List Char}
    (tame : ∀ c ∈ lead, isTame c = true) : Unmarked (lead ++ text) where
  free := by
    rw [untaggedBehind (tameFree tame rfl), plain.free]
  ended last := by
    rw [List.getLast?_append] at last
    rcases Option.or_eq_some_iff.mp last with behind | ⟨-, before⟩
    · exact plain.ended behind
    · exact tameFree tame rfl (List.mem_of_getLast? before)

theorem Unmarked.before (free : untagged text = true) (tame : ∀ c ∈ tail, isTame c = true)
    (opened : ']' ∉ tail) (filled : tail ≠ []) : Unmarked (text ++ tail) where
  free := by
    rw [untaggedAppend (sealedTame tame opened), free, untaggedFree (tameFree tame rfl)]
    rfl
  ended last := by
    rw [List.getLast?_append_of_ne_nil _ filled] at last
    exact tameFree tame rfl (List.mem_of_getLast? last)

end

end Terminal

end PageAudit
