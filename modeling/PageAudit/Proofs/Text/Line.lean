import Mathlib.Data.List.DropRight
import Mathlib.Data.List.TakeWhile
import PageAudit.Text.Kind
import PageAudit.Text.Case
/-!
Lines and the blanks around a text. Lines that follow one another are a part of the text they come
from, what is trimmed off a text is blank, and no blank has a letter case.
-/
namespace PageAudit.Text

def blankCodes : List Nat :=
  [32, 9, 10, 11, 12, 13, 28, 29, 30, 31, 0x85, 0xA0, 0x1680, 0x2000, 0x2001, 0x2002, 0x2003, 0x2004,
    0x2005, 0x2006, 0x2007, 0x2008, 0x2009, 0x200A, 0x2028, 0x2029, 0x202F, 0x205F, 0x3000]

theorem blankListed {c : Char} (blank : isBlank c = true) : c.toNat ∈ blankCodes := by
  simp only [isBlank, Bool.or_eq_true, Bool.and_eq_true, beq_iff_eq, decide_eq_true_eq] at blank
  simp only [blankCodes, List.mem_cons, List.not_mem_nil, or_false]
  omega

theorem blankKey {c : Char} (blank : isBlank c = true) : caseKey c = c := by
  have uncased : ∀ n ∈ blankCodes, caseKey (Char.ofNat n) = Char.ofNat n := by decide +kernel
  have key := uncased c.toNat (blankListed blank)
  rwa [Char.ofNat_toNat] at key

theorem blankNoWord {c : Char} (blank : isBlank c = true) : isWord c = false := by
  have apart : ∀ n ∈ blankCodes, isWord (Char.ofNat n) = false := by decide +kernel
  have other := apart c.toNat (blankListed blank)
  rwa [Char.ofNat_toNat] at other

theorem linesJoined (text : List Char) : ['\n'].intercalate (lines text) = text :=
  List.intercalate_splitOn '\n'

theorem splitFree {text part : List Char} {c : Char} (member : part ∈ text.splitOn c) :
    c ∉ part := by
  induction text generalizing part with
  | nil =>
    obtain rfl := List.mem_singleton.mp member
    exact List.not_mem_nil
  | cons d rest ih =>
    rw [List.splitOn_cons_eq_if_modifyHead] at member
    split at member
    · rcases List.mem_cons.mp member with rfl | later
      · exact List.not_mem_nil
      · exact ih later
    · rename_i other
      cases parts : rest.splitOn c with
      | nil => simp [parts] at member
      | cons first others =>
        rw [parts, List.modifyHead_cons, List.mem_cons] at member
        rcases member with rfl | later
        · have free := ih (parts ▸ List.mem_cons_self)
          rw [List.mem_cons, not_or]
          exact ⟨fun same => other (beq_iff_eq.mpr same.symm), free⟩
        · exact ih (parts ▸ List.mem_cons_of_mem first later)

theorem linesCount (text : List Char) : (lines text).length = text.count '\n' + 1 := by
  induction text with
  | nil => rfl
  | cons c rest ih =>
    rw [lines, List.splitOn_cons_eq_if_modifyHead, List.count_cons]
    rw [lines] at ih
    split
    · rw [List.length_cons, ih]
    · rw [List.length_modifyHead, ih, Nat.add_zero]

theorem linesStart {part : List Char} (free : '\n' ∉ part) (after : List Char) :
    ∃ first rest, lines (part ++ after) = first :: rest ∧ part <+: first := by
  induction part with
  | nil =>
    obtain ⟨first, rest, split⟩ := List.exists_cons_of_ne_nil (List.splitOn_ne_nil '\n' after)
    exact ⟨first, rest, split, List.nil_prefix⟩
  | cons c part ih =>
    rw [List.mem_cons, not_or] at free
    obtain ⟨first, rest, split, starts⟩ := ih free.2
    refine ⟨c :: first, rest, ?_, (List.prefix_cons_inj c).mpr starts⟩
    rw [lines] at split ⊢
    rw [List.cons_append, List.splitOn_cons_eq_if_modifyHead, if_neg (by simpa using Ne.symm free.1),
      split, List.modifyHead_cons]

theorem linePart {part : List Char} (free : '\n' ∉ part) (before after : List Char) :
    ∃ line, (lines (before ++ (part ++ after)))[before.count '\n']? = some line ∧
      part <:+: line := by
  induction before with
  | nil =>
    obtain ⟨first, rest, split, starts⟩ := linesStart free after
    exact ⟨first, by rw [List.nil_append, split]; rfl, starts.isInfix⟩
  | cons c before ih =>
    obtain ⟨line, found, inside⟩ := ih
    rw [lines] at found ⊢
    rw [List.cons_append, List.splitOn_cons_eq_if_modifyHead, List.count_cons]
    split
    · exact ⟨line, found, inside⟩
    · rw [Nat.add_zero, List.getElem?_modifyHead, found]
      split
      · exact ⟨c :: line, rfl, inside.trans (List.infix_cons List.infix_rfl)⟩
      · exact ⟨line, rfl, inside⟩

section
variable {α : Type} (between : List α) (items : List (List α))

theorem takeJoined (n : Nat) :
    between.intercalate (items.take n) <+: between.intercalate items := by
  induction items generalizing n with
  | nil => simp
  | cons item rest ih =>
    cases n with
    | zero => exact List.nil_prefix
    | succ n =>
      cases rest with
      | nil => simp
      | cons next rest =>
        cases n with
        | zero => simp [List.append_assoc]
        | succ n =>
          have shorter := ih (n + 1)
          simp only [List.take_succ_cons] at shorter
          simp only [List.take_succ_cons, List.intercalate_cons_cons]
          exact (List.prefix_append_right_inj _).mpr shorter

theorem dropJoined (n : Nat) :
    between.intercalate (items.drop n) <:+ between.intercalate items := by
  induction items generalizing n with
  | nil => simp
  | cons item rest ih =>
    cases n with
    | zero => exact List.suffix_rfl
    | succ n =>
      cases rest with
      | nil => simp
      | cons next rest =>
        rw [List.drop_succ_cons, List.intercalate_cons_cons]
        exact (ih n).trans (List.suffix_append _ _)

variable {items}

theorem itemJoined {item : List α} (member : item ∈ items) :
    item <:+: between.intercalate items := by
  obtain ⟨i, inside, rfl⟩ := List.getElem_of_mem member
  have first : items[i] <+: between.intercalate (items.drop i) := by
    have one := takeJoined between (items.drop i) 1
    rwa [List.drop_eq_getElem_cons inside, List.take_succ_cons, List.take_zero,
      List.intercalate_singleton, ← List.drop_eq_getElem_cons inside] at one
  exact first.isInfix.trans (dropJoined between items i).isInfix

end

section
variable {text : List Char} {c d : Char}

theorem trimEndPrefix (text : List Char) : trimEnd text <+: text := by
  rw [trimEnd, ← List.reverse_suffix, List.reverse_reverse]
  exact List.dropWhile_suffix isBlank

theorem trimPart (text : List Char) : trim text <:+: text :=
  (trimEndPrefix _).isInfix.trans (List.dropWhile_suffix isBlank).isInfix

theorem filledStays {part : List Char} (filled : part.head?.all (!isBlank ·) = true)
    (inside : part <:+: text) : part <:+: text.dropWhile isBlank := by
  induction text with
  | nil => exact inside
  | cons b text ih =>
    cases blank : isBlank b with
    | false =>
      rw [List.dropWhile_cons_of_neg (by simp [blank])]
      exact inside
    | true =>
      rw [List.dropWhile_cons_of_pos blank]
      rcases List.infix_cons_iff.mp inside with starts | later
      · cases part with
        | nil => exact List.nil_infix
        | cons c part =>
          obtain ⟨rfl, -⟩ := List.cons_prefix_cons.mp starts
          simp [blank] at filled
      · exact ih later

theorem keptAfterBlanks (member : c ∈ text) (filled : isBlank c = false) :
    c ∈ text.dropWhile isBlank := by
  rw [← List.takeWhile_append_dropWhile (p := isBlank) (l := text), List.mem_append] at member
  rcases member with before | after
  · rw [List.mem_takeWhile_imp before] at filled
    cases filled
  · exact after

theorem trimKeeps (member : c ∈ text) (filled : isBlank c = false) : c ∈ trim text := by
  have after := keptAfterBlanks member filled
  rw [trim, trimEnd, List.mem_reverse]
  exact keptAfterBlanks (List.mem_reverse.mpr after) filled

theorem trimStart {rest : List Char} (starts : trim text = c :: rest) : isBlank c = false := by
  obtain ⟨tail, whole⟩ : c :: rest <+: text.dropWhile isBlank := starts ▸ trimEndPrefix _
  have first : (text.dropWhile isBlank).head? = some c := by rw [← whole]; rfl
  have stopped := List.head?_dropWhile_not isBlank text
  rw [first] at stopped
  simpa using stopped

theorem trimTurned (text : List Char) :
    (trim text).reverse = (text.dropWhile isBlank).reverse.dropWhile isBlank := by
  rw [trim, trimEnd, List.reverse_reverse]

theorem trimInside {part : List Char} (inside : part <:+: text) : trim part <:+: trim text := by
  have starts : (trim part).head?.all (!isBlank ·) = true := by
    cases start : trim part with
    | nil => rfl
    | cons c rest => simp [trimStart start]
  have ends : (trim part).reverse.head?.all (!isBlank ·) = true := by
    rw [trimTurned]
    have stopped := List.head?_dropWhile_not isBlank (part.dropWhile isBlank).reverse
    cases last : ((part.dropWhile isBlank).reverse.dropWhile isBlank).head? with
    | none => rfl
    | some c =>
      rw [last] at stopped
      simpa using stopped
  have front := filledStays starts ((trimPart part).trans inside)
  have back := filledStays ends (List.reverse_infix.mpr front)
  rw [← List.reverse_infix, trimTurned text]
  exact back

theorem trimFilled (filled : isBlank c = false) (rest : List Char) :
    trim (c :: rest) = trimEnd (c :: rest) := by
  rw [trim, List.dropWhile_cons_of_neg (by simp [filled])]

theorem trimEndKept (filled : isBlank c = false) (start rest : List Char) :
    trimEnd (start ++ c :: rest) = start ++ c :: trimEnd rest := by
  have backwards : (start ++ c :: rest).reverse = rest.reverse ++ c :: start.reverse := by simp
  have kept : (c :: start.reverse).dropWhile isBlank = c :: start.reverse :=
    List.dropWhile_cons_of_neg (by simp [filled])
  rw [trimEnd, trimEnd, backwards, List.dropWhile_append]
  split
  · rename_i empty
    rw [kept, List.isEmpty_iff.mp empty]
    simp
  · simp

theorem trimEndTrim (text : List Char) : trimEnd (trim text) = trim text :=
  List.rdropWhile_idempotent isBlank _

theorem trimTwice (text : List Char) : trim (trim text) = trim text := by
  cases trimmed : trim text with
  | nil => rfl
  | cons c rest => rw [trimFilled (trimStart trimmed), ← trimmed, trimEndTrim]

theorem trimmedTwice (text : String) : trimmed (trimmed text) = trimmed text := by
  rw [trimmed, trimmed, String.toList_ofList, trimTwice]

theorem trimmedStarts {text start : String} (between : List Char)
    (whole : start.toList = c :: (between ++ [d])) (first : isBlank c = false)
    (last : isBlank d = false) (starts : startsWith text start = true) :
    startsWith (trimmed text) start = true := by
  obtain ⟨rest, split⟩ := List.isPrefixOf_iff_prefix.mp starts
  have kept : trim text.toList = c :: (between ++ d :: trimEnd rest) := by
    rw [← split, whole, List.cons_append, List.append_assoc, List.singleton_append,
      trimFilled first, ← List.cons_append, trimEndKept last, List.cons_append]
  refine List.isPrefixOf_iff_prefix.mpr ⟨trimEnd rest, ?_⟩
  rw [trimmed, String.toList_ofList, kept, whole, List.cons_append, List.append_assoc,
    List.singleton_append]

theorem trimmedBehind {start : String} (text : String) (between : List Char)
    (whole : start.toList = c :: (between ++ [d])) (first : isBlank c = false)
    (last : isBlank d = false) : trimmed (start ++ trimmed text) = start ++ trimmed text := by
  have kept : trim (start.toList ++ trim text.toList) = start.toList ++ trim text.toList := by
    rw [whole, List.cons_append, List.append_assoc, List.singleton_append, trimFilled first,
      ← List.cons_append, trimEndKept last, trimEndTrim]
  rw [trimmed, String.toList_append, trimmed, String.toList_ofList, kept, String.ofList_append,
    String.ofList_toList]

end

end PageAudit.Text
