import PageAudit.Proofs.Pattern.Extent
import PageAudit.Proofs.Pattern.Piece
import PageAudit.Proofs.Text.Place
/-!
Where the first match of a text starts. A pattern that takes no line end and looks at nothing around
what it takes matches in a line exactly where it matches in the whole text.
-/
namespace PageAudit.Pattern

structure Leftmost (p : Pattern) (before : Char) (text passed rest : List Char) (t : Trail) :
    Prop where
  whole : text = passed ++ rest
  matched : p.matchAt? (passed.getLastD before) rest = some t
  first : ∀ earlier later, text = earlier ++ later → earlier.length < passed.length →
    p.matchAt? (earlier.getLastD before) later = none

def linewise (p : Pattern) : Bool := p.reading && p.avoids '\n'

section
variable {p : Pattern} {before c : Char} {text passed passed' rest rest' : List Char} {t t' : Trail}
  {m : Match} {n : Nat} {word : List Char}

theorem leftmostHere (matched : p.matchAt? before text = some t) :
    Leftmost p before text [] text t :=
  ⟨rfl, matched, nofun⟩

theorem leftmostLater (none : p.matchAt? before (c :: text) = none) :
    Leftmost p before (c :: text) (c :: passed) rest t ↔ Leftmost p c text passed rest t := by
  constructor
  · rintro ⟨whole, matched, first⟩
    refine ⟨List.tail_eq_of_cons_eq whole, by rwa [List.getLastD_cons] at matched, ?_⟩
    intro earlier later split inside
    have there := first (c :: earlier) later (by rw [split, List.cons_append])
      (Nat.succ_lt_succ inside)
    rwa [List.getLastD_cons] at there
  · rintro ⟨rfl, matched, first⟩
    refine ⟨rfl, by rwa [List.getLastD_cons], ?_⟩
    intro earlier later split inside
    cases earlier with
    | nil => exact (List.nil_append later ▸ split) ▸ none
    | cons d earlier =>
      obtain ⟨rfl, behind⟩ := List.cons.inj split
      rw [List.getLastD_cons]
      exact first earlier later behind (Nat.lt_of_succ_lt_succ inside)

theorem leftmostFound : p.findFrom? before text = some m ↔
    ∃ passed rest t, Leftmost p before text passed rest t ∧ m = t.found rest := by
  rw [findScan]
  induction text generalizing before with
  | nil =>
    rw [scan, Option.head?_toList, Option.map_eq_some_iff]
    constructor
    · rintro ⟨t, matched, rfl⟩
      exact ⟨[], [], t, leftmostHere matched, rfl⟩
    · rintro ⟨passed, rest, t, ⟨empty, matched, -⟩, rfl⟩
      obtain ⟨rfl, rfl⟩ := List.append_eq_nil_iff.mp empty.symm
      exact ⟨t, matched, rfl⟩
  | cons c text ih =>
    cases found : p.matchAt? before (c :: text) with
    | some u =>
      rw [scan, found, List.head?_cons, Option.some_inj]
      constructor
      · rintro rfl
        exact ⟨[], c :: text, u, leftmostHere found, rfl⟩
      · rintro ⟨passed, rest, t, ⟨whole, matched, first⟩, rfl⟩
        cases passed with
        | nil =>
          obtain rfl : c :: text = rest := whole
          obtain rfl := Option.some.inj (found.symm.trans matched)
          rfl
        -- A match here would stand before the leftmost one.
        | cons d passed => cases found.symm.trans (first [] _ rfl (Nat.succ_pos _))
    | none =>
      rw [scan, found, ih]
      constructor
      · rintro ⟨passed, rest, t, leftmost, rfl⟩
        exact ⟨c :: passed, rest, t, (leftmostLater found).mpr leftmost, rfl⟩
      · rintro ⟨passed, rest, t, leftmost, rfl⟩
        cases passed with
        | nil =>
          obtain rfl : c :: text = rest := leftmost.whole
          cases found.symm.trans leftmost.matched
        | cons d passed =>
          obtain ⟨rfl, -⟩ := List.cons.inj leftmost.whole
          exact ⟨passed, rest, t, (leftmostLater found).mp leftmost, rfl⟩

theorem scanOnward (leftmost : Leftmost p before text passed rest t) (filled : 0 < t.taken) :
    p.scan 0 before text = t.found rest ::
      p.scan 0 ((passed ++ rest.take t.taken).getLastD before) (rest.drop t.taken) := by
  induction passed generalizing before text with
  | nil =>
    obtain rfl : text = rest := leftmost.whole
    have matched : p.matchAt? before text = some t := leftmost.matched
    have inside := matchInside matched
    cases text with
    | nil => exact absurd inside (Nat.not_le.mpr filled)
    | cons c text =>
      obtain ⟨n, taken⟩ := Nat.exists_eq_add_of_lt filled
      have behind := scanBehind p c (text.take n) (text.drop n)
      rw [List.length_take_of_le (by rw [List.length_cons] at inside; omega),
        List.take_append_drop] at behind
      have count : t.taken = n + 1 := by omega
      simp only [scan, matched, count, Nat.add_sub_cancel, List.nil_append, List.take_succ_cons,
        List.getLastD_cons, List.drop_succ_cons, behind]
  | cons c passed ih =>
    obtain ⟨text, rfl⟩ : ∃ later, text = c :: later := ⟨_, leftmost.whole⟩
    have none : p.matchAt? before (c :: text) = none :=
      leftmost.first [] _ rfl (Nat.succ_pos _)
    rw [scan, none, List.cons_append, List.getLastD_cons]
    exact ih ((leftmostLater none).mp leftmost)

theorem occursLeftmost : p.occursIn text = true ↔
    ∃ passed rest t, Leftmost p ' ' text passed rest t := by
  rw [occursIn, Option.isSome_iff_exists]
  constructor
  · rintro ⟨m, found⟩
    obtain ⟨passed, rest, t, leftmost, -⟩ := leftmostFound.mp found
    exact ⟨passed, rest, t, leftmost⟩
  · rintro ⟨passed, rest, t, leftmost⟩
    exact ⟨_, leftmostFound.mpr ⟨passed, rest, t, leftmost, rfl⟩⟩

/- A word starts behind the text if only its first character is the one that follows the text. -/
theorem wordBehind {earlier later read after : List Char} {d : Char}
    (apart : Text.caseKey d ∉ word.tail.map Text.caseKey)
    (free : Text.holdsLike word passed = false)
    (whole : passed ++ d :: after = earlier ++ (read ++ later))
    (keys : read.map Text.caseKey = word.map Text.caseKey) : passed.length ≤ earlier.length := by
  refine Nat.le_of_not_lt fun inside => ?_
  obtain ⟨between, rfl⟩ : earlier <+: passed :=
    List.prefix_of_prefix_length_le ⟨_, whole.symm⟩ (List.prefix_append ..) (Nat.le_of_lt inside)
  rw [List.append_assoc, List.append_cancel_left_eq] at whole
  rcases List.append_eq_append_iff.mp whole with ⟨beyond, rfl, split⟩ | ⟨within, rfl, -⟩
  · cases between with
    | nil => simp at inside
    | cons b between =>
      cases beyond with
      | nil =>
        refine Bool.eq_false_iff.mp free (Text.holdsExactly.mpr ⟨earlier, b :: between, [], ?_, ?_⟩)
        · simp
        · simpa using keys
      | cons e beyond =>
        obtain ⟨rfl, -⟩ := List.cons.inj split
        refine apart ?_
        rw [List.map_tail, ← keys]
        simp
  · exact Bool.eq_false_iff.mp free (Text.holdsExactly.mpr ⟨earlier, read, within, rfl, keys⟩)

theorem wordLeftmost {after : List Char} {d : Char} {u : Trail}
    (apart : Text.caseKey d ∉ word.tail.map Text.caseKey)
    (free : Text.holdsLike word passed = false)
    (begins : ∀ {t text u}, p.Reads t text u → ∃ read later, text = read ++ later ∧
      read.map Text.caseKey = word.map Text.caseKey)
    (reads : p.Reads (.start (passed.getLastD before)) (d :: after) u) :
    ∃ t, Leftmost p before (passed ++ d :: after) passed (d :: after) t := by
  obtain ⟨t, matched⟩ := readsRun reads
  refine ⟨t, rfl, matched, fun earlier behind split inside => ?_⟩
  cases found : p.matchAt? (earlier.getLastD before) behind with
  | none => rfl
  | some v =>
    obtain ⟨read, later, rfl, keys⟩ := begins (runReads found)
    exact absurd inside (Nat.not_lt.mpr (wordBehind apart free split keys))

namespace Leftmost

theorem early (leftmost : Leftmost p before text passed rest t) {earlier later : List Char}
    (split : text = earlier ++ later) {u : Trail}
    (reads : p.Reads (.start (earlier.getLastD before)) later u) : passed <+: earlier := by
  have long : passed.length ≤ earlier.length := by
    refine Nat.le_of_not_lt fun inside => ?_
    obtain ⟨v, matched⟩ := readsRun reads
    cases (leftmost.first earlier later split inside).symm.trans matched
  exact List.prefix_of_prefix_length_le ⟨rest, leftmost.whole.symm⟩ ⟨later, split.symm⟩ long

theorem alike (leftmost : Leftmost p before text passed rest t)
    (again : Leftmost p before text passed' rest' t') : passed = passed' :=
  (leftmost.early again.whole (runReads again.matched)).eq_of_length_le
    (again.early leftmost.whole (runReads leftmost.matched)).length_le

end Leftmost

theorem lineOccurs (single : p.linewise = true) :
    (∃ line, (Text.lines text)[n]? = some line ∧ p.occursIn line = true) ↔
      ∃ passed rest u, text = passed ++ rest ∧ passed.count '\n' = n ∧
        p.Reads (.start (passed.getLastD ' ')) rest u := by
  obtain ⟨reading, free⟩ := Bool.and_eq_true_iff.mp single
  constructor
  · rintro ⟨line, found, occurs⟩
    obtain ⟨passed, rest, rfl, u, reads⟩ := occursPlaces.mp occurs
    obtain ⟨above, below, rfl, count⟩ := Text.lineInside found
    obtain ⟨part, taken⟩ := readsTaken p reads
    obtain ⟨more, rfl⟩ := taken.starts
    obtain ⟨v, reads⟩ := takesReads reading taken.kind
      (.start ((above ++ passed).getLastD ' ')) (more ++ below)
    exact ⟨above ++ passed, part ++ (more ++ below), v, by simp, count, reads⟩
  · rintro ⟨passed, rest, u, rfl, count, reads⟩
    obtain ⟨part, taken⟩ := readsTaken p reads
    obtain ⟨more, rfl⟩ := taken.starts
    obtain ⟨line, found, start, after, rfl⟩ :=
      Text.linePart (takesAvoids free taken.kind) passed more
    refine ⟨_, count ▸ found, occursPlaces.mpr ⟨start, part ++ after, by simp, ?_⟩⟩
    exact takesReads reading taken.kind _ after

theorem textLinewise (plain : '\n' ∉ word) : (ofText word).linewise = true := by
  unfold ofText of row
  simp only [List.foldr_cons, List.foldr_nil, lettersOf]
  induction word with
  | nil => rfl
  | cons c word ih =>
    rw [List.mem_cons, not_or] at plain
    have other : Text.caseKey c ≠ '\n' := fun key =>
      plain.1 (Text.lowKey (by decide) (by decide) key).symm
    have refused : Text.hasKey (Text.caseKey c) '\n' = false :=
      beq_eq_false_iff_ne.mpr fun same => other (same.symm.trans (by decide))
    rw [List.foldr_cons, linewise, reading, avoids, refused, Bool.not_false, Bool.true_and]
    exact ih plain.2

end

end PageAudit.Pattern
