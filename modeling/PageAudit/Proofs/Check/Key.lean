import Mathlib.Data.List.Infix
import PageAudit.Check.Table
import PageAudit.Proofs.Pattern.Leftmost
import PageAudit.Proofs.Text.Line
/-!
Keys of object literals. They are compared with the blanks and the colon behind them, so a key that
stands there twice is told only if the same blanks follow it both times.
-/
namespace PageAudit.Check

open Pattern

/-- A key in a text behind a character: a word with nothing of it left out, and blanks up to a
colon. -/
structure KeyIn (before : Char) (text passed name gap after : List Char) : Prop where
  whole : text = passed ++ (name ++ (gap ++ ':' :: after))
  filled : name ≠ []
  word : ∀ c ∈ name, Text.isWord c = true
  blank : ∀ c ∈ gap, Text.isBlank c = true
  apart : Text.isWord (passed.getLastD before) = false

def KeyTwice (before : Char) (text name gap gap' : List Char) : Prop :=
  ∃ passed after passed' after', KeyIn before text passed name gap after ∧
    KeyIn before text passed' name gap' after' ∧ passed.length < passed'.length

def BracedIn (markup literal : List Char) : Prop :=
  literal <:+: markup ∧
    ∃ inside, literal = '\x7b' :: (inside ++ ['\x7d']) ∧ '\x7b' ∉ inside ∧ '\x7d' ∉ inside

def spelled (name gap : List Char) : List Char := name ++ (gap ++ [':'])

inductive Keys : Char → List Char → List (List Char) → Prop where
  | none {before text} (free : ∀ {passed name gap after},
      ¬KeyIn before text passed name gap after) : Keys before text []
  | next {before text passed name gap after keys} (key : KeyIn before text passed name gap after)
      (first : ∀ {passed' name' gap' after'}, KeyIn before text passed' name' gap' after' →
        passed <+: passed')
      (later : Keys ':' after keys) : Keys before text (spelled name gap :: keys)

section
variable {before c : Char} {text passed passed' name name' gap gap' after after' more rest rest'
  text' literal inside : List Char} {keys : List (List Char)} {t u : Trail}

theorem keyReads : objectKey.Reads t text u ↔ ∃ name gap after,
    text = name ++ (gap ++ ':' :: after) ∧ name ≠ [] ∧ (∀ c ∈ name, Text.isWord c = true) ∧
      (∀ c ∈ gap, Text.isBlank c = true) ∧ u = ((t.over name).over gap).step ':' := by
  constructor
  · intro reads
    obtain ⟨name, _, rfl, filled, word, gap, _, rfl, blank, reads⟩ := someRead.mp reads
    obtain ⟨after, rfl, rfl⟩ := (verbatimRead ":").mp reads
    exact ⟨name, gap, after, rfl, filled, word, blank, rfl⟩
  · rintro ⟨name, gap, after, rfl, filled, word, blank, rfl⟩
    exact someRead.mpr ⟨name, _, rfl, filled, word, gap, _, rfl, blank,
      (verbatimRead ":").mpr ⟨after, rfl, rfl⟩⟩

namespace KeyIn

theorem reads (key : KeyIn before text passed name gap after) :
    ∃ u, objectKey.Reads (.start (passed.getLastD before)) (name ++ (gap ++ ':' :: after)) u :=
  ⟨_, keyReads.mpr ⟨name, gap, after, rfl, key.filled, key.word, key.blank, rfl⟩⟩

theorem sameParts (key : KeyIn before text passed name gap after)
    (other : KeyIn c text' passed' name' gap' after')
    (same : name ++ (gap ++ ':' :: rest) = name' ++ (gap' ++ ':' :: rest')) :
    name = name' ∧ gap = gap' := by
  have colon : Text.isWord ':' = false := by decide
  have plain : ∀ {gap : List Char}, (∀ c ∈ gap, Text.isBlank c = true) → ':' ∉ gap :=
    fun blank member => absurd (blank ':' member) (by decide)
  have behind : ∀ {gap : List Char}, (∀ c ∈ gap, Text.isBlank c = true) → ∀ rest,
      ∃ d later, gap ++ ':' :: rest = d :: later ∧ Text.isWord d = false := by
    intro gap blank rest
    cases gap with
    | nil => exact ⟨':', rest, rfl, colon⟩
    | cons d gap => exact ⟨d, _, rfl, Text.blankNoWord (blank d List.mem_cons_self)⟩
  obtain ⟨d, later, starts, edge⟩ := behind key.blank rest
  obtain ⟨d', later', starts', edge'⟩ := behind other.blank rest'
  rw [starts, starts'] at same
  obtain ⟨rfl, rfl, rfl⟩ := Text.partedAlike (p := (!Text.isWord ·))
    (fun c member => by rw [key.word c member]; rfl)
    (fun c member => by rw [other.word c member]; rfl) (by rw [edge]; rfl) (by rw [edge']; rfl) same
  exact ⟨rfl, Text.markAlike (plain key.blank) (plain other.blank) (starts.trans starts'.symm)⟩

theorem spelledApart (key : KeyIn before text passed name gap after) {start finish : List Char}
    {e d : Char} (split : spelled name gap = (start ++ [e]) ++ d :: finish) :
    Text.isWord e = true ∨ Text.isWord d = false := by
  rcases List.append_eq_append_iff.mp split with ⟨part, -, behind⟩ | ⟨part, inside, -⟩
  · have member : d ∈ gap ++ [':'] := by rw [behind]; simp
    rcases List.mem_append.mp member with blank | colon
    · exact .inr (Text.blankNoWord (key.blank d blank))
    · obtain rfl := List.mem_singleton.mp colon
      exact .inr (by decide)
  · exact .inl (key.word e (by rw [inside]; simp))

theorem spelledBehind (key : KeyIn before text passed name gap after) {start rest : List Char}
    {e d : Char} (whole : spelled name gap ++ after = (start ++ [e]) ++ d :: rest)
    (edge : Text.isWord e = false) (letter : Text.isWord d = true) :
    spelled name gap <+: start ++ [e] := by
  rcases List.append_eq_append_iff.mp whole with ⟨more, split, -⟩ | ⟨part, split, same⟩
  · exact ⟨more, split.symm⟩
  · cases part with
    | nil => exact ⟨[], by rw [split, List.append_nil, List.append_nil]⟩
    | cons c part =>
      obtain rfl : d = c := (List.cons.inj same).1
      rcases key.spelledApart split with word | other
      · cases word.symm.trans edge
      · cases letter.symm.trans other

theorem later (key : KeyIn before text passed name gap after)
    (behind : KeyIn ':' after more name' gap' after') :
    KeyIn before text (passed ++ (spelled name gap ++ more)) name' gap' after' where
  whole := by rw [key.whole, behind.whole]; simp [spelled]
  filled := behind.filled
  word := behind.word
  blank := behind.blank
  apart := by
    rw [lastAppend, lastAppend, spelled, lastAppend, lastAppend]
    exact behind.apart

theorem next (key : KeyIn before text passed name gap after)
    (other : KeyIn before text passed' name' gap' after') (order : passed <+: passed') :
    (passed' = passed ∧ name' = name ∧ gap' = gap) ∨
      ∃ more, passed' = passed ++ (spelled name gap ++ more) ∧
        KeyIn ':' after more name' gap' after' := by
  obtain ⟨extra, rfl⟩ := order
  have same := key.whole.symm.trans other.whole
  rw [List.append_assoc] at same
  have same := List.append_cancel_left same
  rcases List.eq_nil_or_concat' extra with rfl | ⟨start, e, rfl⟩
  · obtain ⟨rfl, rfl⟩ := key.sameParts other same
    exact .inl ⟨List.append_nil _, rfl, rfl⟩
  · have whole : spelled name gap ++ after =
        (start ++ [e]) ++ (name' ++ (gap' ++ ':' :: after')) := by
      rw [← same]
      simp [spelled]
    have edge := other.apart
    rw [← List.append_assoc, List.getLastD_concat] at edge
    obtain ⟨d, word, starts⟩ := List.exists_cons_of_ne_nil other.filled
    have letter : Text.isWord d = true := other.word d (starts ▸ List.mem_cons_self)
    obtain ⟨more, split⟩ := key.spelledBehind (starts ▸ whole) edge letter
    rw [← split]
    refine .inr ⟨more, rfl, ?_, other.filled, other.word, other.blank, ?_⟩
    · rw [← split, List.append_assoc] at whole
      exact List.append_cancel_left whole
    · have apart := other.apart
      rwa [← split, lastAppend, lastAppend, spelled, lastAppend, lastAppend] at apart

end KeyIn

theorem keyLeftmost (edge : Text.isWord before = false)
    (leftmost : Leftmost objectKey before text passed rest t) : ∃ name gap after,
      KeyIn before text passed name gap after ∧ rest = spelled name gap ++ after ∧
        t.taken = (spelled name gap).length := by
  obtain ⟨name, gap, after, rfl, filled, word, blank, rfl⟩ :=
    keyReads.mp (runReads leftmost.matched)
  refine ⟨name, gap, after, ⟨leftmost.whole, filled, word, blank, ?_⟩, ?_, ?_⟩
  · rcases List.eq_nil_or_concat' passed with rfl | ⟨start, c, rfl⟩
    · exact edge
    · rw [List.getLastD_concat]
      refine Bool.eq_false_iff.mpr fun letter => ?_
      have longer : objectKey.Reads (.start (start.getLastD before))
          (c :: name ++ (gap ++ ':' :: after)) _ :=
        keyReads.mpr ⟨c :: name, gap, after, rfl, List.cons_ne_nil _ _,
          List.forall_mem_cons.mpr ⟨letter, word⟩, blank, rfl⟩
      have early := (leftmost.early (by rw [leftmost.whole]; simp) longer).length_le
      rw [List.length_append, List.length_singleton] at early
      omega
  · simp [spelled]
  · simp only [Trail.stepTaken, Trail.overTaken, Trail.start, spelled, List.length_append,
      List.length_singleton]
    omega

theorem scanKeys (before : Char) (text : List Char) (edge : Text.isWord before = false) :
    Keys before text ((objectKey.scan 0 before text).map Match.text) := by
  cases found : objectKey.findFrom? before text with
  | none =>
    have empty : objectKey.scan 0 before text = [] := by
      rwa [findScan, List.head?_eq_none_iff] at found
    rw [empty]
    exact .none fun key => (scanPlaces before).mpr ⟨_, _, key.whole, key.reads⟩ empty
  | some m =>
    obtain ⟨passed, _, t, leftmost, -⟩ := leftmostFound.mp found
    obtain ⟨name, gap, after, key, rfl, taken⟩ := keyLeftmost edge leftmost
    have shorter : after.length < text.length := by
      rw [key.whole]
      simp only [List.length_append, List.length_cons]
      omega
    have last : (passed ++ spelled name gap).getLastD before = ':' := by
      rw [spelled, ← List.append_assoc, ← List.append_assoc, List.getLastD_concat]
    have filled : 0 < t.taken := by
      rw [taken, spelled, List.length_append, List.length_append, List.length_singleton]
      omega
    rw [scanOnward leftmost filled, taken, List.take_left, List.drop_left, last, List.map_cons,
      Trail.found, taken, List.take_left]
    exact .next key (fun other => leftmost.early other.whole other.reads.choose_spec)
      (scanKeys ':' after (by decide))
termination_by text.length

theorem keyListed (listed : Keys before text keys) (word : List Char) : word ∈ keys ↔
    ∃ passed name gap after, KeyIn before text passed name gap after ∧ word = spelled name gap := by
  induction listed with
  | none free =>
    refine iff_of_false List.not_mem_nil ?_
    rintro ⟨_, _, _, _, key, -⟩
    exact free key
  | next key first _ ih =>
    rw [List.mem_cons, ih]
    constructor
    · rintro (rfl | ⟨_, _, _, _, behind, rfl⟩)
      · exact ⟨_, _, _, _, key, rfl⟩
      · exact ⟨_, _, _, _, key.later behind, rfl⟩
    · rintro ⟨_, _, _, _, other, rfl⟩
      rcases key.next other (first other) with ⟨-, rfl, rfl⟩ | ⟨_, -, behind⟩
      · exact .inl rfl
      · exact .inr ⟨_, _, _, _, behind, rfl⟩

theorem keysRepeat (listed : Keys before text keys) :
    repeats keys = true ↔ ∃ name gap, KeyTwice before text name gap gap := by
  induction listed with
  | none free =>
    refine iff_of_false Bool.false_ne_true ?_
    rintro ⟨_, _, _, _, _, _, key, -⟩
    exact free key
  | @next before text passed name gap after keys key first listed ih =>
    rw [repeats, Bool.or_eq_true, List.contains_iff_mem, keyListed listed, ih]
    have place : ∀ more, passed.length < (passed ++ (spelled name gap ++ more)).length := by
      intro more
      simp only [spelled, List.length_append, List.length_singleton]
      omega
    constructor
    · rintro (⟨_, name', gap', _, behind, same⟩ | ⟨_, _, _, _, _, _, left, right, order⟩)
      · have same : name ++ (gap ++ ':' :: []) = name' ++ (gap' ++ ':' :: []) := same
        obtain ⟨rfl, rfl⟩ := key.sameParts behind same
        exact ⟨name, gap, _, _, _, _, key, key.later behind, place _⟩
      · exact ⟨_, _, _, _, _, _, key.later left, key.later right, by simpa using order⟩
    · rintro ⟨name', gap', left, _, right, _, one, two, order⟩
      have least := (first one).length_le
      rcases key.next two (first two) with ⟨rfl, -⟩ | ⟨more', rfl, behind'⟩
      · omega
      · rcases key.next one (first one) with ⟨rfl, rfl, rfl⟩ | ⟨more, rfl, behind⟩
        · exact .inl ⟨_, _, _, _, behind', rfl⟩
        · exact .inr ⟨_, _, _, _, _, _, behind, behind', by simpa using order⟩

theorem literalReads : objectLiteral.Reads t text u ↔ ∃ inside after,
    text = '\x7b' :: (inside ++ '\x7d' :: after) ∧ '\x7b' ∉ inside ∧ '\x7d' ∉ inside ∧
      u = ((t.step '\x7b').over inside).step '\x7d' := by
  have plain : ∀ {inside : List Char}, (∀ c ∈ inside, except ['\x7b', '\x7d'] c = true) ↔
      '\x7b' ∉ inside ∧ '\x7d' ∉ inside := by
    intro inside
    rw [exceptEach, List.forall_mem_cons, List.forall_mem_singleton]
  constructor
  · intro reads
    obtain ⟨_, rfl, inside, _, rfl, free, reads⟩ := (verbatimRead "\x7b").mp reads
    obtain ⟨after, rfl, rfl⟩ := (verbatimRead "\x7d").mp reads
    obtain ⟨opens, closes⟩ := plain.mp free
    exact ⟨inside, after, rfl, opens, closes, rfl⟩
  · rintro ⟨inside, after, rfl, opens, closes, rfl⟩
    exact (verbatimRead "\x7b").mpr ⟨_, rfl, inside, _, rfl, plain.mpr ⟨opens, closes⟩,
      (verbatimRead "\x7d").mpr ⟨after, rfl, rfl⟩⟩

theorem literalApart (matched : objectLiteral.matchAt? before text = some t)
    (split : text = passed ++ rest) (some : passed ≠ []) (within : passed.length < t.taken)
    (before : Char) : objectLiteral.matchAt? before rest = none := by
  obtain ⟨inside, after, rfl, opens, -, rfl⟩ := literalReads.mp (runReads matched)
  obtain ⟨c, passed, rfl⟩ := List.exists_cons_of_ne_nil some
  obtain ⟨-, split⟩ := List.cons.inj split
  have short : passed.length ≤ inside.length := by
    simp only [Trail.stepTaken, Trail.overTaken, Trail.start, List.length_cons] at within
    omega
  obtain ⟨more, rfl⟩ := List.prefix_of_prefix_length_le ⟨rest, split.symm⟩
    (List.prefix_append inside _) short
  rw [List.append_assoc] at split
  obtain rfl := List.append_cancel_left split
  cases more with
  | nil => exact matchUnstarted (by decide)
  | cons d more =>
    have other : d ≠ '\x7b' := fun same => opens (by simp [same])
    exact matchUnstarted (by simpa [objectLiteral, of, row, verbatim, mayStartWith] using other)

theorem literalFound : literal ∈ objectLiteral.findAll text ↔ BracedIn text literal := by
  have taken : ∀ (before : Char) (inside : List Char),
      ((((Trail.start before).step '\x7b').over inside).step '\x7d').taken =
        ('\x7b' :: (inside ++ ['\x7d'])).length := by
    intro before inside
    simp only [Trail.stepTaken, Trail.overTaken, Trail.start, List.length_cons, List.length_append,
      List.length_nil]
    omega
  have cut : ∀ inside after : List Char, '\x7b' :: (inside ++ '\x7d' :: after) =
      '\x7b' :: (inside ++ ['\x7d']) ++ after := by
    intro inside after
    simp
  rw [findAll, matchesScan, List.mem_map]
  constructor
  · rintro ⟨m, member, rfl⟩
    obtain ⟨before, _, _, here, matched, rfl⟩ := scanFound member
    obtain ⟨inside, after, rfl, opens, closes, rfl⟩ := literalReads.mp (runReads matched)
    refine ⟨(List.take_prefix _ _).isInfix.trans here.isInfix, inside, ?_, opens, closes⟩
    rw [Trail.found, taken, cut inside after, List.take_left]
  · rintro ⟨⟨passed, after, rfl⟩, inside, rfl, opens, closes⟩
    obtain ⟨t, matched⟩ := readsRun (literalReads (t := .start (passed.getLastD ' ')).mpr
      ⟨inside, after, rfl, opens, closes, rfl⟩)
    -- Both are read from the same brace, so they end at the same one.
    obtain ⟨inside', after', same, opens', closes', rfl⟩ := literalReads.mp (runReads matched)
    obtain rfl := Text.markAlike closes closes' (List.cons.inj same).2
    rw [cut] at matched
    refine ⟨_, scanListed (fun found _ _ => literalApart found) (List.append_assoc ..)
      matched (Nat.zero_le _), ?_⟩
    rw [Trail.found, taken, List.take_left]

theorem duplicateKeysTold (s : Subject) : ∃ check v, checks.find? "eslint-004" = some check ∧
    check.run s = .ok v ∧
    (v.passed = false ↔ ∃ literal name gap, BracedIn s.markup literal ∧
      KeyTwice ' ' literal name gap gap) := by
  refine ⟨_, duplicateKeys s, rfl, rfl, ?_⟩
  have twice : ∀ literal, repeats (objectKey.findAll literal) = true ↔
      ∃ name gap, KeyTwice ' ' literal name gap gap := by
    intro literal
    rw [findAll, matchesScan]
    exact keysRepeat (scanKeys ' ' literal (by decide))
  simp only [duplicateKeys, Verdict.plain, Bool.not_eq_false', List.any_eq_true, Subject.findAll,
    literalFound, twice]
  constructor
  · rintro ⟨literal, braced, name, gap, again⟩
    exact ⟨literal, name, gap, braced, again⟩
  · rintro ⟨literal, name, gap, braced, again⟩
    exact ⟨literal, braced, name, gap, again⟩

theorem spacedKeyPasses :
    let s : Subject := ⟨"\x7ba:1, a :2\x7d".toList, .empty, "https://a.b/"⟩
    (∃ literal name gap gap', BracedIn s.markup literal ∧ KeyTwice ' ' literal name gap gap') ∧
      ∃ check v, checks.find? "eslint-004" = some check ∧ check.run s = .ok v ∧
        v.passed = true := by
  intro s
  refine ⟨⟨s.markup, ['a'], [], [' '], ⟨List.infix_rfl, "a:1, a :2".toList, rfl, by decide,
    by decide⟩, ['\x7b'], "1, a :2\x7d".toList, "\x7ba:1, ".toList, "2\x7d".toList, ?_, ?_,
      by decide⟩, _, duplicateKeys s, rfl, rfl, by decide +kernel⟩
  · exact ⟨rfl, by decide, List.forall_mem_singleton.mpr (by decide +kernel), nofun,
      by decide +kernel⟩
  · exact ⟨rfl, by decide, List.forall_mem_singleton.mpr (by decide +kernel),
      List.forall_mem_singleton.mpr (by decide), by decide +kernel⟩

end

end PageAudit.Check
