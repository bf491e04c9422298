import PageAudit.Proofs.Text.Parted
import PageAudit.Proofs.Text.Piece
/-!
How often a word stands in a text, letter case apart, what stands behind its last place, and what
stands behind the last closing bracket.
-/
namespace PageAudit.Text

def countLike (word text : List Char) : Nat := text.tails.countP (startsLike word)

def behindLast (word : List Char) : List Char → List Char
  | [] => []
  | c :: rest => if holdsLike word rest then behindLast word rest else (c :: rest).drop word.length

def openRest (text : List Char) : List Char := (text.splitOn '>').getLastD []

def Ending (tail : List Char) : Prop := tail = [] ∨ ∃ more, tail = '>' :: more

section
variable {part text word found later head body read rest tail : List Char} {c x : Char}

theorem openRestFree (free : '>' ∉ text) : openRest text = text := by
  rw [openRest, List.splitOn_eq_singleton free]
  rfl

theorem openRestNext (free : '>' ∉ part) (rest : List Char) :
    openRest (part ++ '>' :: rest) = openRest rest := by
  rw [openRest, List.splitOn_append_cons_self_of_not_mem free, List.getLastD_cons, openRest]
  cases split : rest.splitOn '>' with
  | nil => exact absurd split (List.splitOn_ne_nil '>' rest)
  | cons first more => rw [List.getLastD_cons, List.getLastD_cons]

theorem restWithin (ends : Ending tail) (free : '>' ∉ read)
    (whole : part ++ tail = read ++ rest) : ∃ more, part = read ++ more ∧ rest = more ++ tail := by
  rcases ends with rfl | ⟨more, rfl⟩
  · rw [List.append_nil] at whole
    exact ⟨rest, whole, (List.append_nil rest).symm⟩
  · exact restApart free whole

theorem startsKey (starts : startsLike word (c :: rest) = true) (filled : word ≠ []) :
    ∃ w more, word = w :: more ∧ caseKey c = caseKey w := by
  cases word with
  | nil => exact absurd rfl filled
  | cons w more =>
    rw [startsLike, List.map_cons, List.map_cons, List.isPrefixOf_iff_prefix,
      List.cons_prefix_cons] at starts
    exact ⟨w, more, rfl, starts.1.symm⟩

/- A word that starts before a character that stands nowhere behind its first one ends before it. -/
theorem startsApart (apart : caseKey x ∉ word.tail.map caseKey) (part rest : List Char) :
    startsLike word (c :: (part ++ x :: rest)) = startsLike word (c :: part) := by
  rw [Bool.eq_iff_iff]
  simp only [startsLike, List.isPrefixOf_iff_prefix]
  cases word with
  | nil => exact iff_of_true List.nil_prefix List.nil_prefix
  | cons w word =>
    simp only [List.map_cons, List.map_append, List.cons_prefix_cons]
    refine and_congr_right fun _ => ⟨prefixApart apart, fun starts => ?_⟩
    exact starts.trans (List.prefix_append _ _)

theorem countLikeNext (word : List Char) (c : Char) (text : List Char) :
    countLike word (c :: text) =
      countLike word text + if startsLike word (c :: text) then 1 else 0 := by
  rw [countLike, List.tails_cons, List.countP_cons]
  rfl

theorem holdsCount : holdsLike word text = true ↔ 0 < countLike word text := by
  rw [holdsLike, List.any_eq_true, countLike, List.countP_pos_iff]

theorem countApart (filled : word ≠ []) (apart : caseKey x ∉ word.map caseKey)
    (part rest : List Char) :
    countLike word (part ++ x :: rest) = countLike word part + countLike word rest := by
  cases word with
  | nil => exact absurd rfl filled
  | cons w word =>
    rw [List.map_cons, List.mem_cons, not_or] at apart
    induction part with
    | nil =>
      have other : startsLike (w :: word) (x :: rest) = false := by
        rw [Bool.eq_false_iff]
        intro starts
        obtain ⟨_, _, same, key⟩ := startsKey starts filled
        obtain ⟨rfl, rfl⟩ := List.cons.inj same
        exact apart.1 key
      rw [List.nil_append, countLikeNext, other]
      exact (Nat.zero_add _).symm
    | cons c part ih =>
      rw [List.cons_append, countLikeNext, countLikeNext, ih, startsApart apart.2]
      omega

theorem holdsNext (word : List Char) (c : Char) (text : List Char) :
    holdsLike word (c :: text) = (startsLike word (c :: text) || holdsLike word text) := by
  rw [holdsLike, List.tails_cons, List.any_cons, holdsLike]

theorem holdsLater (holds : holdsLike word body = true) (head : List Char) :
    holdsLike word (head ++ body) = true := by
  obtain ⟨before, read, rest, rfl, keys⟩ := holdsExactly.mp holds
  exact holdsExactly.mpr ⟨head ++ before, read, rest, (List.append_assoc ..).symm, keys⟩

theorem lastLater (holds : holdsLike word body = true) (head : List Char) :
    behindLast word (head ++ body) = behindLast word body := by
  induction head with
  | nil => rfl
  | cons c head ih => rw [List.cons_append, behindLast, if_pos (holdsLater holds head), ih]

theorem lastPlace (holds : holdsLike word text = true) : ∃ front read,
    text = front ++ (read ++ behindLast word text) ∧ read.map caseKey = word.map caseKey ∧
      ∀ far other rest, text = far ++ (other ++ rest) → other.map caseKey = word.map caseKey →
        far.length ≤ front.length := by
  induction text with
  | nil =>
    obtain ⟨before, read, rest, split, keys⟩ := holdsExactly.mp holds
    obtain ⟨-, empty⟩ := List.append_eq_nil_iff.mp split.symm
    obtain ⟨rfl, -⟩ := List.append_eq_nil_iff.mp empty
    refine ⟨[], [], rfl, keys, fun far other rest whole _ => ?_⟩
    obtain ⟨rfl, -⟩ := List.append_eq_nil_iff.mp whole.symm
    exact Nat.le_refl 0
  | cons c text ih =>
    rw [behindLast]
    -- The last place is this one only if the word is nowhere farther on.
    cases later : holdsLike word text with
    | true =>
      obtain ⟨front, read, split, keys, farthest⟩ := ih later
      refine ⟨c :: front, read, congrArg (c :: ·) split, keys, fun far other rest whole again => ?_⟩
      cases far with
      | nil => exact Nat.zero_le _
      | cons d far =>
        exact Nat.succ_le_succ (farthest far other rest (List.cons.inj whole).2 again)
    | false =>
      rw [holdsNext, later, Bool.or_false] at holds
      obtain ⟨read, rest, split, keys⟩ := startsExactly.mp holds
      have length : word.length = read.length := by
        simpa only [List.length_map] using (congrArg List.length keys).symm
      refine ⟨[], read, ?_, keys, fun far other rest whole again => ?_⟩
      · rw [if_neg (by decide), split, length, List.drop_left, List.nil_append]
      · cases far with
        | nil => exact Nat.le_refl 0
        | cons d far =>
          have here : holdsLike word text = true :=
            holdsExactly.mpr ⟨far, other, rest, (List.cons.inj whole).2, again⟩
          cases later.symm.trans here

theorem lastFree (holds : holdsLike word text = true) (filled : word ≠ []) :
    holdsLike word (behindLast word text) = false := by
  obtain ⟨front, read, split, keys, farthest⟩ := lastPlace holds
  rw [Bool.eq_false_iff]
  intro again
  obtain ⟨between, other, rest, behind, same⟩ := holdsExactly.mp again
  have short := farthest (front ++ (read ++ between)) other rest
    (by rw [split, behind]; simp only [List.append_assoc]) same
  have length : read.length = word.length := by
    simpa only [List.length_map] using congrArg List.length keys
  have some := List.length_pos_iff.mpr filled
  simp only [List.length_append] at short
  omega

end

end PageAudit.Text
