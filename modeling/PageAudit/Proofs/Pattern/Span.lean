import PageAudit.Proofs.Pattern.Followed
import PageAudit.Proofs.Pattern.Piece
/-!
Where the matches of a text lie. They follow one another without overlap, each is a match where it
stands, and no match starts outside of them. Finding, listing and counting agree on them.
-/
namespace PageAudit.Pattern

structure Span where
  start : Nat
  length : Nat

namespace Span

def of (s : Span) (text : List Char) : List Char := (text.drop s.start).take s.length

def later (s : Span) : Span := ⟨s.start + 1, s.length⟩

def Before (s u : Span) : Prop := s.start < u.start ∧ s.start + s.length ≤ u.start

def Holds (s : Span) (place : Nat) : Prop :=
  s.start ≤ place ∧ (place = s.start ∨ place < s.start + s.length)

end Span

def MatchesAt (p : Pattern) (before : Char) (text : List Char) (s : Span) : Prop :=
  s.start ≤ text.length ∧ ∃ t, p.matchAt? ((text.take s.start).getLastD before)
    (text.drop s.start) = some t ∧ t.taken = s.length

structure Listed (p : Pattern) (skip : Nat) (before : Char) (text : List Char)
    (spans : List Span) : Prop where
  matched : ∀ s ∈ spans, skip ≤ s.start ∧ p.MatchesAt before text s
  apart : spans.Pairwise Span.Before
  complete : ∀ s, skip ≤ s.start → p.MatchesAt before text s → ∃ u ∈ spans, u.Holds s.start

section
variable {p : Pattern} {before c : Char} {text rest : List Char} {skip : Nat} {s : Span}
  {spans : List Span} {t : Trail}

theorem matchesLater : p.MatchesAt before (c :: rest) s.later ↔ p.MatchesAt c rest s := by
  unfold MatchesAt Span.later
  rw [List.length_cons, Nat.succ_le_succ_iff, List.take_succ_cons, List.getLastD_cons,
    List.drop_succ_cons]

theorem matchesStart {n : Nat} : p.MatchesAt before text ⟨0, n⟩ ↔
    ∃ t, p.matchAt? before text = some t ∧ t.taken = n := by
  simp [MatchesAt]

theorem startOrLater (s : Span) : s = ⟨0, s.length⟩ ∨ ∃ u : Span, s = u.later := by
  obtain ⟨start, length⟩ := s
  cases start with
  | zero => exact .inl rfl
  | succ start => exact .inr ⟨⟨start, length⟩, rfl⟩

theorem beforeLater {s u : Span} : s.later.Before u.later ↔ s.Before u := by
  simp only [Span.Before, Span.later]
  omega

theorem holdsLater {n : Nat} : s.later.Holds (n + 1) ↔ s.Holds n := by
  simp only [Span.Holds, Span.later]
  omega

theorem Listed.later (listed : Listed p skip c rest spans) :
    Listed p (skip + 1) before (c :: rest) (spans.map Span.later) where
  matched := by
    intro s member
    obtain ⟨u, there, rfl⟩ := List.mem_map.mp member
    obtain ⟨behind, matched⟩ := listed.matched u there
    exact ⟨Nat.succ_le_succ behind, matchesLater.mpr matched⟩
  apart := by
    rw [List.pairwise_map]
    exact listed.apart.imp beforeLater.mpr
  complete := by
    intro s behind matched
    obtain start | ⟨u, rfl⟩ := startOrLater s
    · rw [start] at behind
      cases behind
    · obtain ⟨v, there, holds⟩ :=
        listed.complete u (Nat.le_of_succ_le_succ behind) (matchesLater.mp matched)
      exact ⟨v.later, List.mem_map_of_mem there, holdsLater.mpr holds⟩

theorem Listed.unmatched (listed : Listed p 1 before text spans)
    (none : p.matchAt? before text = none) : Listed p 0 before text spans where
  matched := fun s member => ⟨Nat.zero_le _, (listed.matched s member).2⟩
  apart := listed.apart
  complete := by
    intro s _ matched
    obtain start | ⟨u, rfl⟩ := startOrLater s
    · rw [start, matchesStart] at matched
      obtain ⟨t, found, -⟩ := matched
      cases none.symm.trans found
    · exact listed.complete _ (Nat.succ_pos _) matched

theorem Listed.matching (listed : Listed p (t.taken - 1 + 1) before text spans)
    (matched : p.matchAt? before text = some t) :
    Listed p 0 before text (⟨0, t.taken⟩ :: spans) where
  matched := by
    rw [List.forall_mem_cons]
    exact ⟨⟨Nat.zero_le _, matchesStart.mpr ⟨t, matched, rfl⟩⟩,
      fun s member => ⟨Nat.zero_le _, (listed.matched s member).2⟩⟩
  apart := by
    refine List.pairwise_cons.mpr ⟨fun s member => ?_, listed.apart⟩
    have behind := (listed.matched s member).1
    simp only [Span.Before]
    omega
  complete := by
    intro s _ starts
    by_cases behind : t.taken - 1 + 1 ≤ s.start
    · obtain ⟨u, there, holds⟩ := listed.complete s behind starts
      exact ⟨u, List.mem_cons_of_mem _ there, holds⟩
    · refine ⟨_, List.mem_cons_self, ?_⟩
      simp only [Span.Holds]
      omega

theorem listedBeyond (beyond : text.length < skip) : Listed p skip before text [] where
  matched := nofun
  apart := .nil
  complete := fun s behind matched => by
    have inside := matched.1
    omega

theorem scanListing (p : Pattern) (skip : Nat) (before : Char) (text : List Char) :
    ∃ spans, Listed p skip before text spans ∧
      (p.scan skip before text).map Match.text = spans.map (·.of text) := by
  induction text generalizing skip before with
  | nil =>
    cases skip with
    | succ skip => exact ⟨[], listedBeyond (Nat.succ_pos skip), rfl⟩
    | zero =>
      have beyond : Listed p 1 before [] [] := listedBeyond Nat.one_pos
      cases matched : p.matchAt? before [] with
      | none => exact ⟨[], beyond.unmatched matched, by simp [scan, matched]⟩
      | some t =>
        have nothing : t.taken = 0 := Nat.le_zero.mp (matchInside matched)
        have behind : Listed p (t.taken - 1 + 1) before [] [] := by rwa [nothing]
        exact ⟨_, behind.matching matched, by simp [scan, matched, Trail.found, Span.of]⟩
  | cons c rest ih =>
    cases skip with
    | succ skip =>
      obtain ⟨spans, listed, same⟩ := ih skip c
      refine ⟨_, listed.later, ?_⟩
      rw [scan, same, List.map_map]
      rfl
    | zero =>
      cases matched : p.matchAt? before (c :: rest) with
      | none =>
        obtain ⟨spans, listed, same⟩ := ih 0 c
        refine ⟨_, listed.later.unmatched matched, ?_⟩
        rw [scan, matched, same, List.map_map]
        rfl
      | some t =>
        -- The places that the match takes are passed over.
        obtain ⟨spans, listed, same⟩ := ih (t.taken - 1) c
        refine ⟨_, listed.later.matching matched, ?_⟩
        rw [scan, matched, List.map_cons, same, List.map_cons, List.map_map]
        rfl

theorem joinedSublist (apart : spans.Pairwise Span.Before) (text : List Char) {n : Nat}
    (behind : ∀ s ∈ spans, n ≤ s.start) :
    (spans.map (·.of text)).flatten.Sublist (text.drop n) := by
  induction spans generalizing n with
  | nil => exact List.nil_sublist _
  | cons s spans ih =>
    obtain ⟨first, others⟩ := List.pairwise_cons.mp apart
    have rest := ih others (n := s.start + s.length) fun u member => (first u member).2
    obtain ⟨k, start⟩ := Nat.exists_eq_add_of_le (behind s List.mem_cons_self)
    have whole : s.of text ++ text.drop (s.start + s.length) = text.drop s.start := by
      rw [Span.of, ← List.drop_drop, List.take_append_drop]
    have joined : (s.of text ++ (spans.map (·.of text)).flatten).Sublist (text.drop s.start) := by
      rw [← whole]
      exact List.Sublist.append_left rest _
    rw [start, ← List.drop_drop] at joined
    exact joined.trans (List.drop_sublist k _)

theorem textSpelled {word text : List Char} : (ofText word).occursIn text = true ↔
    ∃ part, part <:+: text ∧ Text.Spells word part := by
  rw [ofTextOccurs, Text.holdsSpelled]

theorem listedAll (p : Pattern) (text : List Char) :
    ∃ spans, Listed p 0 ' ' text spans ∧ p.findAll text = spans.map (·.of text) := by
  rw [findAll, matchesScan]
  exact scanListing p 0 ' ' text

theorem foundSublist (p : Pattern) (text : List Char) : (p.findAll text).flatten.Sublist text := by
  obtain ⟨spans, listed, found⟩ := listedAll p text
  rw [found]
  exact joinedSublist listed.apart text fun s _ => Nat.zero_le s.start

theorem patternsAgree :
    (∀ (p : Pattern) (text : List Char),
      (∃ spans, Listed p 0 ' ' text spans ∧ p.findAll text = spans.map (·.of text)) ∧
      (p.findAll text).flatten.Sublist text ∧
      p.count text = (p.findAll text).length ∧
      (p.occursIn text = true ↔ 0 < p.count text)) ∧
    (∀ word text : List Char,
      (ofText word).occursIn text = true ↔ ∃ part, part <:+: text ∧ Text.Spells word part) ∧
    (∀ word before rest : List Char, (ofText word).occursIn (before ++ word ++ rest) = true) ∧
    ∀ c d : Char, (Text.lower c = Text.lower d → Text.Alike c d) ∧
      (Text.Alike c d → Text.upper (Text.lower c) = Text.upper (Text.lower d)) := by
  refine ⟨fun p text => ⟨listedAll p text, foundSublist p text, (findAllCount p text).symm, ?_⟩,
    fun word text => textSpelled, fun word before rest => ?_, fun c d => ⟨fun same => ?_,
    Text.alikeCapital⟩⟩
  · rw [occursCount, Nat.pos_iff_ne_zero]
  · rw [ofTextOccurs]
    exact Text.holdsItself ⟨before, rest, rfl⟩
  · exact ⟨_, .inl rfl, .inl (same ▸ rfl)⟩

theorem longLetterFound :
    (ofText ['S', 'o']).occursIn ['a', 'ſ', 'O'] = true ∧
      Text.upper (Text.lower 'S') = Text.upper (Text.lower 'ſ') := by
  have long : Text.Alike 'S' 'ſ' := ⟨115, .inl (by decide), .inr (by decide +kernel)⟩
  have round : Text.Alike 'o' 'O' := ⟨111, .inl (by decide), .inl (by decide)⟩
  refine ⟨(patternsAgree.2.1 _ _).mpr ⟨['ſ', 'O'], ⟨['a'], [], rfl⟩, .cons long ?_⟩,
    (patternsAgree.2.2.2 _ _).2 long⟩
  exact .cons round .nil

end

end PageAudit.Pattern
