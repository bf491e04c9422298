import Mathlib.Data.List.Basic
import PageAudit.Pattern.Basic
import PageAudit.Proofs.Pattern.Followed
/-!
What the pieces of a pattern read, piece by piece: words, alternatives of words, the text of the
group once more, and a pattern anywhere in a text.
-/
namespace PageAudit.Pattern

def Trail.grouped (t : Trail) (read rest : List Char) : Trail :=
  let after := Trail.over { t with groupText := read ++ rest, groupStart := t.taken } read
  { after with groupLength := after.taken - after.groupStart }

section
variable {p next : Pattern} {t u : Trail} {text : List Char}

theorem overGroup (t : Trail) (passed : List Char) :
    (t.over passed).groupText = t.groupText ∧ (t.over passed).groupStart = t.groupStart ∧
      (t.over passed).group = t.group := by
  induction passed generalizing t with
  | nil => exact ⟨rfl, rfl, rfl⟩
  | cons c rest ih => exact ih (t.step c)

theorem groupedRead (t : Trail) (read rest : List Char) : (t.grouped read rest).group = read := by
  simp [Trail.grouped, Trail.group, overGroup, Trail.overTaken]

theorem rereadPlaces {group : List Char} {place : Place} :
    reread group t text = some place ↔ ∃ passed, text = passed ++ place.2 ∧
      place.1 = t.over passed ∧ passed.map Text.lower = group.map Text.lower := by
  induction group generalizing t text with
  | nil =>
    constructor
    · intro reached
      obtain rfl := Option.some.inj reached
      exact ⟨[], rfl, rfl, rfl⟩
    · rintro ⟨passed, rfl, reached, same⟩
      obtain rfl := List.map_eq_nil_iff.mp same
      exact congrArg some (Prod.ext reached.symm rfl)
  | cons g group ih =>
    cases text with
    | nil =>
      refine iff_of_false nofun ?_
      rintro ⟨passed, split, -, same⟩
      obtain ⟨rfl, -⟩ := List.append_eq_nil_iff.mp split.symm
      cases same
    | cons c rest =>
      rw [reread]
      constructor
      · intro reached
        split at reached
        · rename_i alike
          obtain ⟨passed, rfl, trail, same⟩ := ih.mp reached
          refine ⟨c :: passed, rfl, trail, ?_⟩
          rw [List.map_cons, List.map_cons, same, beq_iff_eq.mp alike]
        · cases reached
      · rintro ⟨passed, split, trail, same⟩
        cases passed with
        | nil => cases same
        | cons d passed =>
          obtain ⟨rfl, rfl⟩ := List.cons.inj split
          obtain ⟨alike, others⟩ := List.cons.inj same
          rw [if_pos (beq_iff_eq.mpr alike.symm)]
          exact ih.mpr ⟨passed, rfl, trail, others⟩

theorem lettersRead (word : String) : (letters word next).Reads t text u ↔
    ∃ read rest, text = read ++ rest ∧ read.map Text.caseKey = word.toList.map Text.caseKey ∧
      next.Reads (t.over read) rest u := by
  unfold letters lettersOf
  generalize word.toList = word
  induction word generalizing t text with
  | nil =>
    constructor
    · intro reads
      exact ⟨[], text, rfl, rfl, reads⟩
    · rintro ⟨read, rest, rfl, same, reads⟩
      obtain rfl := List.map_eq_nil_iff.mp same
      exact reads
  | cons l word ih =>
    constructor
    · rintro ⟨c, after, rfl, key, reads⟩
      obtain ⟨read, rest, rfl, same, reads⟩ := ih.mp reads
      refine ⟨c :: read, rest, rfl, ?_, reads⟩
      rw [List.map_cons, List.map_cons, same, beq_iff_eq.mp key]
    · rintro ⟨read, rest, rfl, same, reads⟩
      cases read with
      | nil => cases same
      | cons c read =>
        obtain ⟨key, others⟩ := List.cons.inj same
        exact ⟨c, read ++ rest, rfl, beq_iff_eq.mpr key, ih.mpr ⟨read, rest, rfl, others, reads⟩⟩

theorem anyOfRead {words : List String} (some : words ≠ []) :
    (anyOf words next).Reads t text u ↔ ∃ word ∈ words, (letters word next).Reads t text u := by
  unfold anyOf
  induction words with
  | nil => exact absurd rfl some
  | cons word more ih =>
    cases more with
    | nil =>
      constructor
      · intro reads
        exact ⟨word, List.mem_cons_self, reads⟩
      · rintro ⟨other, member, reads⟩
        exact List.mem_singleton.mp member ▸ reads
    | cons second more =>
      rw [List.exists_mem_cons_iff, ← ih (List.cons_ne_nil _ _)]
      rfl

theorem lettersRun {word : String} (matched : (letters word next).run t text = some u) :
    ∃ read rest, text = read ++ rest ∧ read.map Text.caseKey = word.toList.map Text.caseKey ∧
      next.run (t.over read) rest = some u := by
  unfold letters lettersOf at matched
  generalize word.toList = word at matched ⊢
  induction word generalizing t text with
  | nil => exact ⟨[], text, rfl, rfl, matched⟩
  | cons l word ih =>
    cases text with
    | nil => cases matched
    | cons c after =>
      rw [List.foldr_cons, run] at matched
      split at matched
      · rename_i key
        obtain ⟨read, rest, rfl, same, ended⟩ := ih matched
        refine ⟨c :: read, rest, rfl, ?_, ended⟩
        rw [List.map_cons, List.map_cons, same, beq_iff_eq.mp key]
      · cases matched

theorem anyOfRun {words : List String} (filled : words ≠ [])
    (matched : (anyOf words next).run t text = some u) :
    ∃ word ∈ words, (letters word next).run t text = some u := by
  unfold anyOf at matched
  induction words with
  | nil => exact absurd rfl filled
  | cons word more ih =>
    cases more with
    | nil => exact ⟨word, List.mem_cons_self, matched⟩
    | cons second more =>
      rw [List.exists_mem_cons_iff]
      rw [List.map_cons, List.map_cons, oneOf, runEither] at matched
      · rcases Option.or_eq_some_iff.mp matched with first | ⟨-, later⟩
        · exact .inl first
        · exact .inr (ih (List.cons_ne_nil _ _) later)
      · exact List.cons_ne_nil _ _

theorem lastAppend (left right : List Char) (c : Char) :
    (left ++ right).getLastD c = right.getLastD (left.getLastD c) := by
  induction left generalizing c with
  | nil => rfl
  | cons d left ih => rw [List.cons_append, List.getLastD_cons, List.getLastD_cons, ih]

theorem overBefore (t : Trail) (passed : List Char) :
    (t.over passed).before = passed.getLastD t.before := by
  induction passed generalizing t with
  | nil => rfl
  | cons c passed ih => rw [List.getLastD_cons]; exact ih (t.step c)

theorem lastAlike {c d : Char} (same : Text.isWord c = Text.isWord d) (passed : List Char) :
    Text.isWord (passed.getLastD c) = Text.isWord (passed.getLastD d) := by
  cases passed with
  | nil => exact same
  | cons e passed => rw [List.getLastD_cons, List.getLastD_cons]

theorem edgeAlike {read : List Char} (filled : read ≠ []) (same : Text.isWord t.before = Text.isWord u.before)
    (rest after : List Char) : atEdge t (read ++ rest) = atEdge u (read ++ after) := by
  cases read with
  | nil => exact absurd rfl filled
  | cons c read => exact congrArg (· != Text.isWord c) same

theorem scanPlaces (before : Char) : p.scan 0 before text ≠ [] ↔ ∃ passed rest,
    text = passed ++ rest ∧ ∃ u, p.Reads (.start (passed.getLastD before)) rest u := by
  induction text generalizing before with
  | nil =>
    constructor
    · intro filled
      obtain ⟨m, member⟩ := List.exists_mem_of_ne_nil _ filled
      rw [scan, Option.mem_toList, Option.map_eq_some_iff] at member
      obtain ⟨t, matched, -⟩ := member
      exact ⟨[], [], rfl, t, runReads matched⟩
    · rintro ⟨passed, rest, empty, u, reads⟩
      obtain ⟨rfl, rfl⟩ := List.append_eq_nil_iff.mp empty.symm
      obtain ⟨v, matched⟩ := readsRun reads
      obtain ⟨more, scanned⟩ := scanMatched matched
      exact scanned ▸ List.cons_ne_nil _ _
  | cons c text ih =>
    cases matched : p.matchAt? before (c :: text) with
    | some t =>
      obtain ⟨more, scanned⟩ := scanMatched matched
      exact iff_of_true (scanned ▸ List.cons_ne_nil _ _) ⟨[], c :: text, rfl, t, runReads matched⟩
    | none =>
      rw [scan, matched, ih c]
      constructor
      · rintro ⟨passed, rest, rfl, found⟩
        refine ⟨c :: passed, rest, rfl, ?_⟩
        rw [List.getLastD_cons]
        exact found
      · rintro ⟨passed, rest, whole, u, reads⟩
        cases passed with
        | nil =>
          obtain rfl := whole
          obtain ⟨v, found⟩ := readsRun reads
          cases matched.symm.trans found
        | cons d passed =>
          obtain ⟨rfl, rfl⟩ := List.cons.inj whole
          rw [List.getLastD_cons] at reads
          exact ⟨passed, rest, rfl, u, reads⟩

theorem occursPlaces : p.occursIn text = true ↔ ∃ passed rest, text = passed ++ rest ∧
    ∃ u, p.Reads (.start (passed.getLastD ' ')) rest u := by
  rw [occursScan, scanPlaces]

theorem occursReads {here : List Char → Prop}
    (reads : ∀ before rest, (∃ u, p.Reads (.start before) rest u) ↔ here rest) :
    p.occursIn text = true ↔ ∃ rest, rest <:+ text ∧ here rest := by
  rw [occursPlaces]
  constructor
  · rintro ⟨passed, rest, rfl, found⟩
    exact ⟨rest, List.suffix_append _ _, (reads _ rest).mp found⟩
  · rintro ⟨rest, ⟨passed, rfl⟩, there⟩
    exact ⟨passed, rest, rfl, (reads _ rest).mpr there⟩

end

end PageAudit.Pattern
