import PageAudit.Proofs.Check.ThirdParty
import PageAudit.Proofs.Pattern.Value
/-!
Scripts that do not hold the page back. A script counts as deferred if the text of its tag, up to
the end of its source, has `async` or `defer` in it in small letters, wherever that is.
-/
namespace PageAudit.Check

open Pattern

/-- Where a reader of the attributes of a tag stands; a name is held backwards. -/
inductive Reader where
  | opening
  | between
  | naming (name : List Char)
  | named
  | valuing
  | quoted (mark : Char)
  | bare
  deriving DecidableEq, Repr

def isGap (c : Char) : Bool := [' ', '\t', '\n', '\x0c', '\r'].contains c

namespace Reader

def step (c : Char) : Reader → Reader
  | opening => if isGap c || c == '/' then between else opening
  | between => if isGap c || c == '/' then between else naming [c]
  | naming name =>
    if c == '=' then valuing else if isGap c then named
    else if c == '/' then between else naming (c :: name)
  | named =>
    if c == '=' then valuing else if isGap c then named
    else if c == '/' then between else naming [c]
  | valuing => if isGap c then valuing else if isQuote c then quoted c else bare
  | quoted mark => if c == mark then between else quoted mark
  | bare => if isGap c then between else bare

def held : Reader → List Char
  | naming name => name.reverse
  | _ => []

def ended : Reader → Reader → List (List Char)
  | naming _, naming _ => []
  | naming name, _ => [name.reverse]
  | _, _ => []

def names : Reader → List Char → List (List Char)
  | reader, [] => ended reader between
  | reader, c :: rest => ended reader (reader.step c) ++ names (reader.step c) rest

end Reader

/-- The names of the attributes of a tag, which stand behind the name of the tag itself. -/
def attributes (tag : List Char) : List (List Char) := Reader.opening.names tag

def deferring : List (List Char) := ["async".toList, "defer".toList]

def defers (tag : List Char) : Bool :=
  (attributes tag).any fun name => deferring.contains (name.map Char.toLower)

def Marked (text : List Char) : Prop := ∃ word ∈ deferring, word <:+: text

inductive Miscounted (opening source : List Char) : Prop where
  | address (marked : Marked source) (blocks : defers opening = false)
  | part (marked : Marked opening) (blocks : defers opening = false)
  | capitals (defers : defers opening = true) (unmarked : ¬Marked opening) (plain : ¬Marked source)

def freeScripts (s : Subject) : List Match :=
  (scriptSource.matches? s.markup).filter fun m => nonBlockingMark.occursIn m.text

section
variable {s : Subject} {v : Verdict} {text : List Char}

theorem endedHeld {reader next : Reader} {name : List Char} (member : name ∈ reader.ended next) :
    name = reader.held := by
  unfold Reader.ended at member
  split at member
  · cases member
  · exact List.mem_singleton.mp member
  · cases member

theorem eitherHeld {p : Prop} [Decidable p] {left right : Reader}
    (one : left.held <:+ text) (other : right.held <:+ text) :
    (if p then left else right).held <:+ text := by
  split
  · exact one
  · exact other

theorem stepHeld (reader : Reader) (c : Char) : (reader.step c).held <:+ reader.held ++ [c] := by
  have none : ∀ text : List Char, [] <:+ text := fun _ => List.nil_suffix
  cases reader with
  | opening => exact eitherHeld (none _) (none _)
  | between => exact eitherHeld (none _) List.suffix_rfl
  | naming name =>
    have grown : (Reader.naming (c :: name)).held <:+ (Reader.naming name).held ++ [c] := by
      rw [Reader.held, List.reverse_cons]
      exact List.suffix_rfl
    exact eitherHeld (none _) (eitherHeld (none _) (eitherHeld (none _) grown))
  | named => exact eitherHeld (none _) (eitherHeld (none _) (eitherHeld (none _) List.suffix_rfl))
  | valuing => exact eitherHeld (none _) (eitherHeld (none _) (none _))
  | quoted mark => exact eitherHeld (none _) (none _)
  | bare => exact eitherHeld (none _) (none _)

theorem nameInside {reader : Reader} {name : List Char} (member : name ∈ reader.names text) :
    name <:+: reader.held ++ text := by
  induction text generalizing reader with
  | nil =>
    rw [endedHeld member]
    exact (List.prefix_append _ _).isInfix
  | cons c rest ih =>
    rcases List.mem_append.mp member with here | later
    · rw [endedHeld here]
      exact (List.prefix_append _ _).isInfix
    · obtain ⟨before, split⟩ := stepHeld reader c
      have whole : before ++ ((reader.step c).held ++ rest) = reader.held ++ c :: rest := by
        rw [← List.append_assoc, split, List.append_assoc, List.singleton_append]
      exact whole ▸ (ih later).trans (List.suffix_append _ _).isInfix

theorem attributeInside {tag name : List Char} (member : name ∈ attributes tag) : name <:+: tag :=
  nameInside member

theorem markedApart {left right : List Char} {c : Char} (quote : isQuote c = true) :
    Marked (left ++ c :: right) ↔ Marked left ∨ Marked right := by
  have free : ∀ word ∈ deferring, c ∉ word := by
    have plain : (deferring.all fun word => word.all (!isQuote ·)) = true := by decide
    intro word member within
    rw [plainAll (List.all_eq_true.mp plain word member) c within] at quote
    cases quote
  constructor
  · rintro ⟨word, member, inside⟩
    exact ((Text.infixApart (free word member)).mp inside).imp (⟨word, member, ·⟩)
      (⟨word, member, ·⟩)
  · rintro (⟨word, member, left⟩ | ⟨word, member, right⟩)
    · exact ⟨word, member, (Text.infixApart (free word member)).mpr (.inl left)⟩
    · exact ⟨word, member, (Text.infixApart (free word member)).mpr (.inr right)⟩

theorem markedEnd {c : Char} (quote : isQuote c = true) : Marked (text ++ [c]) ↔ Marked text := by
  have none : ¬Marked [] := by
    rintro ⟨word, member, inside⟩
    rw [List.infix_nil.mp inside] at member
    revert member
    decide
  rw [markedApart quote]
  exact or_iff_left none

theorem markOccurs : nonBlockingMark.occursIn text = true ↔ Marked text := by
  have word : ∀ (w : String) (before : Char) (rest : List Char),
      (∃ u, (verbatim w .done).Reads (.start before) rest u) ↔ w.toList <+: rest := by
    intro w before rest
    constructor
    · rintro ⟨u, read⟩
      obtain ⟨more, rfl, -⟩ := (verbatimRead w).mp read
      exact List.prefix_append _ _
    · rintro ⟨more, rfl⟩
      exact ⟨_, (verbatimRead w).mpr ⟨more, rfl, rfl⟩⟩
  have reads : ∀ before rest, (∃ u, nonBlockingMark.Reads (.start before) rest u) ↔
      ∃ word ∈ deferring, word <+: rest := by
    intro before rest
    have both : (∃ word ∈ deferring, word <+: rest) ↔
        "async".toList <+: rest ∨ "defer".toList <+: rest := by
      simp [deferring]
    rw [both, ← word "async" before, ← word "defer" before]
    exact exists_or
  rw [occursReads reads]
  constructor
  · rintro ⟨rest, here, word, member, starts⟩
    exact ⟨word, member, starts.isInfix.trans here.isInfix⟩
  · rintro ⟨word, member, inside⟩
    obtain ⟨rest, starts, here⟩ := List.infix_iff_prefix_suffix.mp inside
    exact ⟨rest, here, word, member, starts⟩

theorem sourceFound {m : Match} (member : m ∈ scriptSource.matches? text) :
    ∃ start first last, m.text = start ++ first :: (m.group ++ [last]) ∧ isQuote first = true ∧
      isQuote last = true := by
  rw [matchesScan] at member
  obtain ⟨before, _, _, -, matched, rfl⟩ := scanFound member
  obtain ⟨tag, _, rfl, -, reads⟩ := (lettersRead _).mp (runReads matched)
  obtain ⟨fields, _, rfl, -, -, reads⟩ := someRead.mp reads
  obtain ⟨name, _, rfl, -, reads⟩ := (lettersRead _).mp reads
  obtain ⟨source, rest, first, last, valued, rfl⟩ := valueRead.mp reads
  obtain rfl := valued.whole
  let found := (tag ++ (fields ++ name)) ++ first :: (source ++ [last])
  have whole : tag ++ (fields ++ (name ++ first :: (source ++ last :: rest))) = found ++ rest := by
    simp [found]
  have taken : (((((Trail.start before).over tag).over fields).over name).valued source rest first
      last).taken = found.length := by
    simp only [valuedTaken, Trail.overTaken, Trail.start]
    simp only [found, List.length_append, List.length_cons, List.length_nil]
    omega
  refine ⟨tag ++ (fields ++ name), first, last, ?_, valued.opens, valued.closes⟩
  simp only [Trail.found, valuedGroup, taken, whole]
  exact List.take_left

theorem miscountedExactly {opening source : List Char} :
    ¬Miscounted opening source ↔ (Marked opening ∨ Marked source ↔ defers opening = true) := by
  constructor
  · intro right
    cases truth : defers opening with
    | true =>
      refine iff_of_true ?_ rfl
      by_contra neither
      obtain ⟨unmarked, plain⟩ := not_or.mp neither
      exact right (.capitals truth unmarked plain)
    | false =>
      refine iff_of_false ?_ Bool.false_ne_true
      rintro (marked | marked)
      · exact right (.part marked truth)
      · exact right (.address marked truth)
  · rintro same (⟨marked, blocks⟩ | ⟨marked, blocks⟩ | ⟨truth, unmarked, plain⟩)
    · exact Bool.false_ne_true (blocks.symm.trans (same.mp (.inr marked)))
    · exact Bool.false_ne_true (blocks.symm.trans (same.mp (.inl marked)))
    · exact (same.mpr truth).elim unmarked plain

theorem freeScriptsTold (judged : thirdPartyScripts s = .ok v) :
    (∃ n, Tells v n (freeScripts s).length) ∧
      ∀ m ∈ scriptSource.matches? s.markup, ∃ opening last,
        m.text = opening ++ (m.group ++ [last]) ∧ isQuote last = true ∧
        (m ∈ freeScripts s ↔ Marked opening ∨ Marked m.group) ∧
        (∀ name ∈ attributes opening, name ∈ deferring → m ∈ freeScripts s) ∧
        ((m ∈ freeScripts s ↔ defers opening = true) ↔ ¬Miscounted opening m.group) := by
  constructor
  · obtain ⟨-, foreign, -, -, told⟩ := thirdPartyTells judged
    have same : ((s.findAll scriptSource).filter nonBlockingMark.occursIn).length =
        (freeScripts s).length := by
      rw [freeScripts, Subject.findAll, findAll, List.filter_map, List.length_map]
      rfl
    exact ⟨foreign.length, same ▸ told⟩
  · intro m member
    obtain ⟨start, first, last, whole, opens, closes⟩ := sourceFound member
    have counted : m ∈ freeScripts s ↔ Marked (start ++ [first]) ∨ Marked m.group := by
      rw [freeScripts, List.mem_filter, and_iff_right member, markOccurs, whole, markedApart opens,
        markedEnd closes, markedEnd opens]
    refine ⟨start ++ [first], last, ?_, closes, counted, ?_, ?_⟩
    · rw [whole, List.append_assoc, List.singleton_append]
    · intro name within word
      exact counted.mpr (.inl ⟨name, word, attributeInside within⟩)
    · rw [counted, miscountedExactly]

theorem asyncScriptTold :
    let s : Subject := ⟨"<script async src='https://c.d/x.js'>".toList, .empty, "https://a.b/"⟩
    ∃ v, thirdPartyScripts s = .ok v ∧ ∃ n, Tells v n 1 := by
  intro s
  have details : (thirdPartyScripts s).map Verdict.details =
      .ok "1 third-party scripts, 1 loaded async/defer (100%)" := by decide +kernel
  obtain ⟨v, judged, -⟩ := mapOk.mp details
  obtain ⟨told, -⟩ := freeScriptsTold judged
  have one : (freeScripts s).length = 1 := by decide +kernel
  exact ⟨v, judged, one ▸ told⟩

theorem sourceWordCounted :
    let opening := "<script src='".toList
    let source := "https://c.d/async.js".toList
    let s : Subject := ⟨opening ++ (source ++ ['\'', '>']), .empty, "https://a.b/"⟩
    scriptSource.matches? s.markup = [⟨opening ++ (source ++ ['\'']), source⟩] ∧
      defers opening = false ∧
      ∃ v, thirdPartyScripts s = .ok v ∧ Tells v 1 1 ∧ ¬∃ n, Tells v n 0 := by
  intro opening source s
  have details : (thirdPartyScripts s).map Verdict.details =
      .ok "1 third-party scripts, 1 loaded async/defer (100%)" := by decide +kernel
  obtain ⟨v, judged, shown⟩ := mapOk.mp details
  have told : Tells v 1 1 := ⟨100, shown.trans (by decide +kernel)⟩
  refine ⟨by decide +kernel, by decide +kernel, v, judged, told, ?_⟩
  rintro ⟨n, none⟩
  obtain ⟨-, same⟩ := tellsAlike told none
  cases same

end

end PageAudit.Check
