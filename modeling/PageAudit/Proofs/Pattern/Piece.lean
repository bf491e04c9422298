import PageAudit.Check.Basic
import PageAudit.Proofs.Pattern.Extent
import PageAudit.Proofs.Pattern.Group
import PageAudit.Proofs.Pattern.Value
import PageAudit.Proofs.Text.Last
/-!
Patterns that read on to the next closing bracket. Such a pattern finds at most one match in each
piece of a text, from the first place on from which the rest of the piece is of its kind, so what it
finds is what a scan of the pieces finds.
-/
namespace PageAudit.Pattern

open Text

/-- The pattern reads the rest of a piece with the bracket behind it, where that rest is of a kind. -/
structure Closes (p : Pattern) (kind : List Char → Bool) : Prop where
  ends : ∀ {t text u}, p.Reads t text u → ∃ part rest, text = part ++ '>' :: rest ∧
    '>' ∉ part ∧ kind part = true ∧ u.taken = t.taken + (part.length + 1)
  reads : ∀ t rest {part}, '>' ∉ part → kind part = true →
    ∃ u, p.Reads t (part ++ '>' :: rest) u

def holdsWithin (words : List String) (text : List Char) : Bool :=
  words.any fun word => holdsLike word.toList (text.drop 1)

def tagWord (word : String) : Bool :=
  !word.toList.isEmpty && !(word.toList.map caseKey).contains (caseKey '>')

section
variable {p next : Pattern} {kind : List Char → Bool} {before : Char} {t u : Trail}
  {text part read rest tail : List Char} {word : String} {words : List String}

theorem exceptEach {chars : List Char} :
    (∀ x ∈ text, except chars x = true) ↔ ∀ c ∈ chars, c ∉ text := by
  simp only [except, List.contains_eq_mem, Bool.not_eq_true', decide_eq_false_iff_not]
  exact ⟨fun all c known member => all c member known,
    fun free x member known => free x known member⟩

theorem exceptAll {c : Char} : (∀ x ∈ text, except [c] x = true) ↔ c ∉ text :=
  exceptEach.trans List.forall_mem_singleton

theorem withinTag : (∀ c ∈ text, except ['>'] c = true) ↔ '>' ∉ text := exceptAll

theorem tagWordFree (known : tagWord word = true)
    (keys : read.map caseKey = word.toList.map caseKey) : '>' ∉ read := by
  refine keysApart keys ?_
  simp only [tagWord, Bool.and_eq_true, Bool.not_eq_true', List.contains_eq_mem,
    decide_eq_false_iff_not] at known
  exact known.2

theorem tagWordFilled (known : tagWord word = true)
    (keys : read.map caseKey = word.toList.map caseKey) : read ≠ [] := by
  rintro rfl
  simp only [List.map_nil, List.nil_eq, List.map_eq_nil_iff] at keys
  simp [tagWord, keys] at known

theorem scanBehind (p : Pattern) (before : Char) (passed rest : List Char) :
    p.scan passed.length before (passed ++ rest) = p.scan 0 (passed.getLastD before) rest := by
  induction passed generalizing before with
  | nil => rfl
  | cons c passed ih =>
    rw [List.getLastD_cons]
    exact ih c

theorem withinExactly (known : ∀ word ∈ words, tagWord word = true) :
    holdsWithin words part = true ↔ ∃ passed read more, part = passed ++ (read ++ more) ∧
      passed ≠ [] ∧ ∃ word ∈ words, read.map caseKey = word.toList.map caseKey := by
  rw [holdsWithin, List.any_eq_true]
  constructor
  · rintro ⟨word, member, holds⟩
    obtain ⟨passed, read, more, whole, keys⟩ := holdsExactly.mp holds
    cases part with
    | nil =>
      have empty : read = [] := by
        simp only [List.drop_nil, List.nil_eq, List.append_eq_nil_iff] at whole
        exact whole.2.1
      exact absurd empty (tagWordFilled (known word member) keys)
    | cons c part =>
      rw [List.drop_succ_cons, List.drop_zero] at whole
      exact ⟨c :: passed, read, more, by rw [whole, List.cons_append], List.cons_ne_nil _ _, word,
        member, keys⟩
  · rintro ⟨passed, read, more, rfl, filled, word, member, keys⟩
    cases passed with
    | nil => exact absurd rfl filled
    | cons c passed =>
      exact ⟨word, member, holdsExactly.mpr ⟨passed, read, more, rfl, keys⟩⟩

theorem wordsRead (known : ∀ word ∈ words, tagWord word = true) (some : words ≠ [])
    (free : '>' ∉ part) : (someInTag (anyOf words next)).Reads t (part ++ '>' :: rest) u ↔
      ∃ passed read more, part = passed ++ (read ++ more) ∧ passed ≠ [] ∧
        (∃ word ∈ words, read.map caseKey = word.toList.map caseKey) ∧
        next.Reads ((t.over passed).over read) (more ++ '>' :: rest) u := by
  constructor
  · intro reads
    obtain ⟨passed, _, whole, filled, within, reads⟩ := someRead.mp reads
    obtain ⟨word, member, reads⟩ := (anyOfRead some).mp reads
    obtain ⟨read, _, rfl, keys, reads⟩ := (lettersRead word).mp reads
    have apart : '>' ∉ passed ++ read :=
      List.not_mem_append (withinTag.mp within) (tagWordFree (known word member) keys)
    rw [← List.append_assoc] at whole
    obtain ⟨more, rfl, rfl⟩ := Text.restApart apart whole
    exact ⟨passed, read, more, List.append_assoc .., filled, ⟨word, member, keys⟩, reads⟩
  · rintro ⟨passed, read, more, rfl, filled, ⟨word, member, keys⟩, reads⟩
    simp only [List.mem_append, not_or] at free
    exact someRead.mpr ⟨passed, read ++ (more ++ '>' :: rest), by simp, filled,
      withinTag.mpr free.1, (anyOfRead some).mpr ⟨word, member, (lettersRead word).mpr
        ⟨read, _, rfl, keys, reads⟩⟩⟩

theorem wordLast (known : tagWord word = true) (ends : Ending tail)
    (free : '>' ∉ part) (matched : (inTag (letters word done)).run t (part ++ tail) = some u) :
    holdsLike word.toList part = true ∧
      ∃ read, part = read ++ behindLast word.toList part ∧
        u.taken = t.taken + read.length := by
  have within : ∀ {far read more : List Char}, part ++ tail = far ++ (read ++ more) →
      (∀ c ∈ far, except ['>'] c = true) → read.map caseKey = word.toList.map caseKey →
      ∃ rest, part = far ++ (read ++ rest) := by
    intro far read more whole all keys
    rw [← List.append_assoc] at whole
    obtain ⟨rest, rfl, -⟩ := restWithin ends
      (List.not_mem_append (withinTag.mp all) (tagWordFree known keys)) whole
    exact ⟨rest, List.append_assoc ..⟩
  have holds : holdsLike word.toList part = true := by
    obtain ⟨far, _, whole, all, ended⟩ := manyReached matched
    obtain ⟨read, more, rfl, keys, -⟩ := lettersRun ended
    obtain ⟨rest, split⟩ := within whole all keys
    exact holdsExactly.mpr ⟨far, read, rest, split, keys⟩
  obtain ⟨front, shown, split, keys, farthest⟩ := lastPlace holds
  refine ⟨holds, front ++ shown, by rw [List.append_assoc, ← split], ?_⟩
  -- Going on is tried first, so the word that is read is at its last place or behind it.
  obtain ⟨far, _, whole, long, all, ended⟩ : ∃ far after, part ++ tail = far ++ after ∧
      front.length ≤ far.length ∧ (∀ c ∈ far, except ['>'] c = true) ∧
        (letters word done).run (t.over far) after = some u := by
    have shape : part ++ tail =
        front ++ (shown ++ (behindLast word.toList part ++ tail)) := by
      rw [← List.append_assoc shown, ← List.append_assoc front, ← split]
    rw [shape] at matched ⊢
    exact manyLongest matched
      (withinTag.mpr fun member => free (split ▸ List.mem_append_left _ member))
      (readsRun ((lettersRead word).mpr ⟨shown, _, rfl, keys, rfl⟩))
  obtain ⟨read, more, rfl, again, ended⟩ := lettersRun ended
  obtain rfl := Option.some.inj ended
  obtain ⟨rest, apart⟩ := within whole all again
  -- No place behind the last one is left.
  have short := farthest far read rest apart again
  simp only [Trail.overTaken, List.length_append, keysLength keys, keysLength again]
  omega

theorem textReads {word : List Char} : (ofText word).Reads t text u ↔ ∃ read rest,
    text = read ++ rest ∧ read.map caseKey = word.map caseKey ∧ u = t.over read := by
  have letters : ofText word = letters (String.ofList word) done := by
    rw [Pattern.letters, String.toList_ofList]
    rfl
  rw [letters, lettersRead, String.toList_ofList]
  rfl

theorem ofTextOccurs (word text : List Char) :
    (ofText word).occursIn text = holdsLike word text := by
  rw [Bool.eq_iff_iff, occursPlaces, holdsExactly]
  constructor
  · rintro ⟨before, _, rfl, u, reads⟩
    obtain ⟨read, rest, rfl, keys, -⟩ := textReads.mp reads
    exact ⟨before, read, rest, rfl, keys⟩
  · rintro ⟨before, read, rest, rfl, keys⟩
    exact ⟨before, read ++ rest, rfl, _, textReads.mpr ⟨read, rest, rfl, keys, rfl⟩⟩

namespace Closes

theorem bracket : Closes (inTag (verbatim ">" done)) fun _ => true where
  ends := by
    rintro t text u ⟨part, _, rfl, within, reads⟩
    obtain ⟨rest, rfl, rfl⟩ := (verbatimRead ">").mp reads
    refine ⟨part, rest, rfl, withinTag.mp within, rfl, ?_⟩
    rw [Trail.overTaken, Trail.overTaken, Nat.add_assoc]
    rfl
  reads := fun _ _ _ free _ =>
    ⟨_, _, _, rfl, withinTag.mpr free, (verbatimRead ">").mpr ⟨_, rfl, rfl⟩⟩

theorem named (closes : Closes next kind) (known : tagWord word = true) :
    Closes (letters word next) fun part =>
      startsLike word.toList part && kind (part.drop word.toList.length) where
  ends := by
    intro t text u reads
    obtain ⟨read, _, rfl, keys, reads⟩ := (lettersRead word).mp reads
    obtain ⟨part, rest, rfl, free, here, taken⟩ := closes.ends reads
    have length := keysLength keys
    refine ⟨read ++ part, rest, (List.append_assoc ..).symm,
      List.not_mem_append (tagWordFree known keys) free, ?_, ?_⟩
    · rw [← length, List.drop_left, here, Bool.and_true]
      exact startsExactly.mpr ⟨read, part, rfl, keys⟩
    · rw [taken, Trail.overTaken, List.length_append]
      omega
  reads := by
    intro t rest part free here
    obtain ⟨starts, here⟩ := Bool.and_eq_true_iff.mp here
    obtain ⟨read, later, rfl, keys⟩ := startsExactly.mp starts
    rw [← keysLength keys, List.drop_left] at here
    obtain ⟨u, reads⟩ := closes.reads (t.over read) rest
      (fun member => free (List.mem_append_right read member)) here
    rw [List.append_assoc]
    exact ⟨u, (lettersRead word).mpr ⟨read, _, rfl, keys, reads⟩⟩

theorem holding (closes : Closes next fun _ => true)
    (known : ∀ word ∈ words, tagWord word = true) (some : words ≠ []) :
    Closes (someInTag (anyOf words next)) (holdsWithin words) where
  ends := by
    intro t text u reads
    obtain ⟨passed, _, rfl, filled, within, reads⟩ := someRead.mp reads
    obtain ⟨word, member, reads⟩ := (anyOfRead some).mp reads
    obtain ⟨read, _, rfl, keys, reads⟩ := (lettersRead word).mp reads
    obtain ⟨more, rest, rfl, free, -, taken⟩ := closes.ends reads
    refine ⟨passed ++ (read ++ more), rest, by simp, List.not_mem_append (withinTag.mp within)
      (List.not_mem_append (tagWordFree (known word member) keys) free),
      (withinExactly known).mpr ⟨passed, read, more, rfl, filled, word, member, keys⟩, ?_⟩
    simp only [taken, Trail.overTaken, List.length_append]
    omega
  reads := by
    intro t rest part free here
    obtain ⟨passed, read, more, rfl, filled, keys⟩ := (withinExactly known).mp here
    have apart : '>' ∉ more := fun member => free (by simp [member])
    obtain ⟨u, reads⟩ := closes.reads ((t.over passed).over read) rest apart rfl
    exact ⟨u, (wordsRead known some free).mpr ⟨passed, read, more, rfl, filled, keys, reads⟩⟩

theorem without (closes : Closes next kind) (known : ∀ word ∈ words, tagWord word = true)
    (some : words ≠ []) : Closes (lacking (someInTag (anyOf words done)) next) fun part =>
      !holdsWithin words part && kind part where
  ends := by
    rintro t text u ⟨absent, reads⟩
    obtain ⟨part, rest, rfl, free, here, taken⟩ := closes.ends reads
    refine ⟨part, rest, rfl, free, ?_, taken⟩
    rw [here, Bool.and_true, Bool.not_eq_true', Bool.eq_false_iff]
    intro holds
    obtain ⟨passed, read, more, whole, filled, keys⟩ := (withinExactly known).mp holds
    exact absent ⟨_, (wordsRead known some free).mpr ⟨passed, read, more, whole, filled, keys, rfl⟩⟩
  reads := by
    intro t rest part free here
    obtain ⟨plain, here⟩ := Bool.and_eq_true_iff.mp here
    rw [Bool.not_eq_true', Bool.eq_false_iff] at plain
    obtain ⟨u, reads⟩ := closes.reads t rest free here
    refine ⟨u, ?_, reads⟩
    rintro ⟨v, ahead⟩
    obtain ⟨passed, read, more, whole, filled, keys, -⟩ := (wordsRead known some free).mp ahead
    exact plain ((withinExactly known).mpr ⟨passed, read, more, whole, filled, keys⟩)

variable (closes : Closes p kind)
include closes

theorem unmatched (free : '>' ∉ text) : p.matchAt? before text = none := by
  cases matched : p.matchAt? before text with
  | none => rfl
  | some t =>
    obtain ⟨part, rest, rfl, -⟩ := closes.ends (runReads matched)
    simp at free

theorem refused (before : Char) (free : '>' ∉ part) (other : kind part = false)
    (rest : List Char) : p.matchAt? before (part ++ '>' :: rest) = none := by
  cases matched : p.matchAt? before (part ++ '>' :: rest) with
  | none => rfl
  | some t =>
    obtain ⟨part', rest', whole, free', here, -⟩ := closes.ends (runReads matched)
    obtain rfl := markAlike free free' whole
    cases other.symm.trans here

theorem matched (before : Char) (free : '>' ∉ part) (here : kind part = true)
    (rest : List Char) : ∃ t, p.matchAt? before (part ++ '>' :: rest) = some t ∧
      t.taken = part.length + 1 := by
  obtain ⟨u, reads⟩ := closes.reads (.start before) rest free here
  obtain ⟨t, matched⟩ := readsRun reads
  obtain ⟨part', rest', whole, free', -, taken⟩ := closes.ends (runReads matched)
  obtain rfl := markAlike free free' whole
  exact ⟨t, matched, taken.trans (Nat.zero_add _)⟩

theorem scanWhole (before : Char) (free : '>' ∉ part) (here : kind part = true)
    (rest : List Char) : (p.scan 0 before (part ++ '>' :: rest)).map Match.text =
      (part ++ ['>']) :: (p.scan 0 '>' rest).map Match.text := by
  obtain ⟨t, found, taken⟩ := closes.matched before free here rest
  have text : (t.found (part ++ '>' :: rest)).text = part ++ ['>'] := by
    have whole : part ++ '>' :: rest = part ++ ['>'] ++ rest := by simp
    change (part ++ '>' :: rest).take t.taken = _
    rw [taken, whole]
    exact List.take_left' (List.length_append ..)
  cases part with
  | nil =>
    rw [List.nil_append] at found text ⊢
    simp only [scan, found, taken, List.map_cons, text]
    rfl
  | cons c part =>
    have behind := scanBehind p c (part ++ ['>']) rest
    rw [List.length_append, List.append_assoc, List.getLastD_concat] at behind
    rw [List.cons_append] at found text ⊢
    simp only [scan, found, taken, List.map_cons, text]
    exact congrArg (fun later => (c :: part ++ ['>']) :: later.map Match.text) behind

theorem scanPiece (before : Char) (free : '>' ∉ part) (rest : List Char) :
    (p.scan 0 before (part ++ '>' :: rest)).map Match.text =
      ((part.tails.find? kind).map (· ++ ['>'])).toList ++
        (p.scan 0 '>' rest).map Match.text := by
  induction part generalizing before with
  | nil =>
    cases here : kind [] with
    | true =>
      rw [closes.scanWhole before free here]
      simp [here]
    | false =>
      have none := closes.refused before free here rest
      rw [List.nil_append] at none ⊢
      rw [scan, none]
      simp [here]
  | cons c part ih =>
    cases here : kind (c :: part) with
    | true =>
      rw [closes.scanWhole before free here, List.tails_cons, List.find?_cons, here]
      rfl
    | false =>
      have none := closes.refused before free here rest
      rw [List.cons_append] at none ⊢
      rw [scan, none, List.tails_cons, List.find?_cons, here]
      exact ih c fun member => free (List.mem_cons_of_mem c member)

theorem scanPieces (before : Char) (text : List Char) :
    (p.scan 0 before text).map Match.text =
      (pieces text).filterMap fun part => (part.tails.find? kind).map (· ++ ['>']) := by
  induction text using pieceInduction generalizing before with
  | last text free =>
    have none : p.scan 0 before text = [] := by
      induction text generalizing before with
      | nil => rw [scan, closes.unmatched free]; rfl
      | cons c rest ih =>
        rw [scan, closes.unmatched free]
        exact ih (fun member => free (List.mem_cons_of_mem c member)) c
    rw [none, piecesNone free]
    rfl
  | next part rest free ih =>
    rw [closes.scanPiece before free, ih, piecesNext free, List.filterMap_cons]
    cases part.tails.find? kind <;> rfl

theorem findPieces (text : List Char) : p.findAll text =
    (pieces text).filterMap fun part => (part.tails.find? kind).map (· ++ ['>']) := by
  rw [findAll, matchesScan]
  exact closes.scanPieces ' ' text

theorem countPieces (text : List Char) :
    p.count text = (pieces text).countP fun part => part.tails.any kind := by
  rw [countScan, ← List.length_map, closes.scanPieces, List.length_filterMap_eq_countP]
  refine List.countP_congr fun part _ => ?_
  rw [Option.isSome_map, List.find?_isSome, List.any_eq_true]

variable {q r : Pattern} {wider other : List Char → Bool}

theorem countWider (wide : Closes q wider) (all : ∀ {part}, kind part = true → wider part = true)
    (text : List Char) : p.count text ≤ q.count text := by
  rw [closes.countPieces, wide.countPieces]
  refine List.countP_mono_left fun part _ there => ?_
  obtain ⟨found, member, here⟩ := List.any_eq_true.mp there
  exact List.any_eq_true.mpr ⟨found, member, all here⟩

theorem countShared (wide : Closes q wider) (others : Closes r other)
    (all : ∀ {part}, kind part = true → wider part = true ∨ other part = true)
    (text : List Char) : p.count text ≤ q.count text + r.count text := by
  rw [closes.countPieces, wide.countPieces, others.countPieces]
  induction pieces text with
  | nil => exact Nat.zero_le _
  | cons part more ih =>
    have first : part.tails.any kind = true →
        part.tails.any wider = true ∨ part.tails.any other = true := by
      intro there
      obtain ⟨found, member, here⟩ := List.any_eq_true.mp there
      exact (all here).imp (fun here => List.any_eq_true.mpr ⟨found, member, here⟩)
        fun here => List.any_eq_true.mpr ⟨found, member, here⟩
    simp only [List.countP_cons]
    split <;> split <;> split <;> grind

end Closes

theorem tagCloses {name : String} (known : tagWord ("<" ++ name) = true) :
    Closes (tag name) (startsLike ("<" ++ name).toList) := by
  have closes := Closes.bracket.named known
  simp only [Bool.and_true] at closes
  exact closes

/- A word behind any place where the name of the tag stands is behind the first one too. -/
theorem tagHolds {name field : String} (known : tagWord ("<" ++ name) = true)
    (sought : tagWord field = true) (starts : startsLike ("<" ++ name).toList part = true)
    (free : '>' ∉ part) : (tagHolding name field).occursIn (part ++ ['>']) =
      holdsWithin [field] (part.drop ("<" ++ name).toList.length) := by
  have words : ∀ word ∈ [field], tagWord word = true := List.forall_mem_singleton.mpr sought
  have filled : [field] ≠ [] := List.cons_ne_nil _ _
  rw [Bool.eq_iff_iff, occursPlaces]
  constructor
  · rintro ⟨passed, _, whole, u, reads⟩
    obtain ⟨read, after, rfl, keys, reads⟩ := (lettersRead ("<" ++ name)).mp reads
    have some : read ++ after ≠ [] := List.append_ne_nil_of_left_ne_nil (tagWordFilled known keys) _
    have apart : '>' ∉ passed ++ read :=
      List.not_mem_append (fun member => free ((startApart some whole).subset member))
        (tagWordFree known keys)
    rw [← List.append_assoc] at whole
    obtain ⟨body, rfl, rfl⟩ := restApart apart whole
    obtain ⟨passed', read', more, rfl, filled', keys', -⟩ := (wordsRead words filled
      fun member => free (List.mem_append_right _ member)).mp reads
    refine (withinExactly words).mpr ⟨(passed ++ read ++ passed').drop ("<" ++ name).toList.length,
      read', more, ?_, ?_, keys'⟩
    · rw [← List.append_assoc (passed ++ read), List.drop_append_of_le_length]
      simp only [List.length_append, keysLength keys]
      omega
    · have some' := List.length_pos_iff.mpr filled'
      refine List.ne_nil_of_length_pos ?_
      simp only [List.length_drop, List.length_append, keysLength keys]
      omega
  · intro within
    obtain ⟨read, body, rfl, keys⟩ := startsExactly.mp starts
    rw [← keysLength keys, List.drop_left] at within
    obtain ⟨passed, read', more, rfl, filled', keys'⟩ := (withinExactly words).mp within
    rw [List.append_assoc]
    exact ⟨[], _, rfl, _, (lettersRead ("<" ++ name)).mpr ⟨read, _, rfl, keys, (wordsRead words filled
      fun member => free (List.mem_append_right _ member)).mpr
        ⟨passed, read', more, rfl, filled', keys', rfl⟩⟩⟩

end

end PageAudit.Pattern
