import Mathlib.Data.List.Infix
import PageAudit.Check.Table
import PageAudit.Proofs.Check.Lasting
import PageAudit.Proofs.Check.Stylesheet
import PageAudit.Proofs.Excerpt
import PageAudit.Proofs.Text.Place
/-!
Evidence that is looked up by another pattern than the one that decides. What is shown is the first
line on which that other pattern is found: no offence that it certainly finds is above that line,
and the line need not be one with an offence.
-/
namespace PageAudit.Check

open Pattern

def StartsOn (p : Pattern) (markup : List Char) (line : Nat) : Prop :=
  ∃ passed rest, markup = passed ++ rest ∧ passed.count '\n' = line ∧
    ∃ t, p.matchAt? (passed.getLastD ' ') rest = some t

def StandsOn (p : Pattern) (markup : List Char) (line : Nat) : Prop :=
  ∃ text, (Text.lines markup)[line]? = some text ∧ p.occursIn text = true

def directLink : Pattern :=
  of [letters "<a", inTag, verbatim ">", anyOf ["click here", "here", "more", "read more"], blanks,
    letters "</a>"]

/-- The rules that look for a sign of the offence: what they mind, what they look for instead, and
the offences that have the sign wherever they stand on one line. -/
inductive LooksFor (s : Subject) : String → Pattern → Pattern → Pattern → Prop where
  | focus : LooksFor s "wcag-005" focusWithoutOutline (of [focusRule]) focusWithoutOutline
  | link : LooksFor s "a11y-001" genericLink genericLinkStart directLink
  | sheet (free : s.findAll blockingScript = []) :
      LooksFor s "js-002" blockingStylesheet stylesheetLink blockingStylesheet

structure ShowsSign (markup : List Char) (offence sign sure : Pattern) (v : Verdict) : Prop where
  failed : v.passed = false ↔ ∃ n, StartsOn offence markup n
  missing : v.evidence = none ↔ v.passed = true ∨ ∀ n, ¬StandsOn sign markup n
  line : ∀ e, v.evidence = some e → 1 ≤ e.line ∧ StandsOn sign markup (e.line - 1)
  early : ∀ n, StandsOn sure markup n →
    StartsOn offence markup n ∧ ∃ e, v.evidence = some e ∧ e.line ≤ n + 1
  just : ∀ e, v.evidence = some e → (StartsOn offence markup (e.line - 1) ↔
    ∃ n, StartsOn offence markup n ∧ StandsOn sign markup n ∧
      ∀ m < n, StandsOn sign markup m → StartsOn offence markup m)

structure Signs (offence sign sure : Pattern) : Prop where
  signed : ∀ {t text u}, sure.Reads t text u → ∃ v, sign.Reads t text v
  kept : ∀ {before text u}, sure.Reads (.start before) text u → ∀ before' more,
    ∃ v, offence.Reads (.start before') (text ++ more) v

theorem startsTaken {p : Pattern} {markup : List Char} {n : Nat} : StartsOn p markup n ↔
    ∃ passed ∈ markup.inits, passed.count '\n' = n ∧
      (p.matchAt? (passed.getLastD ' ') (markup.drop passed.length)).isSome = true := by
  constructor
  · rintro ⟨passed, rest, rfl, count, t, matched⟩
    refine ⟨passed, (List.mem_inits _ _).mpr (List.prefix_append ..), count, ?_⟩
    rw [List.drop_left, matched]
    rfl
  · rintro ⟨passed, member, count, matched⟩
    obtain ⟨rest, rfl⟩ := (List.mem_inits _ _).mp member
    rw [List.drop_left] at matched
    exact ⟨passed, rest, rfl, count, Option.isSome_iff_exists.mp matched⟩

instance (p : Pattern) (markup : List Char) (n : Nat) : Decidable (StartsOn p markup n) :=
  decidable_of_iff _ startsTaken.symm

section
variable {s : Subject} {rule : String} {offence sign sure : Pattern} {markup : List Char}
  {v : Verdict} {minded : Bool} {context : Int} {n : Nat}

theorem startsOccurs : (∃ n, StartsOn offence markup n) ↔ offence.occursIn markup = true := by
  rw [occursPlaces]
  constructor
  · rintro ⟨-, passed, rest, whole, -, t, matched⟩
    exact ⟨passed, rest, whole, t, runReads matched⟩
  · rintro ⟨passed, rest, whole, u, reads⟩
    exact ⟨_, passed, rest, whole, rfl, readsRun reads⟩

theorem Signs.stands (signs : Signs offence sign sure) (stands : StandsOn sure markup n) :
    StandsOn sign markup n := by
  obtain ⟨text, found, occurs⟩ := stands
  obtain ⟨passed, rest, whole, u, reads⟩ := occursPlaces.mp occurs
  exact ⟨text, found, occursPlaces.mpr ⟨passed, rest, whole, signs.signed reads⟩⟩

theorem Signs.starts (signs : Signs offence sign sure) (stands : StandsOn sure markup n) :
    StartsOn offence markup n := by
  obtain ⟨text, found, occurs⟩ := stands
  obtain ⟨passed, rest, rfl, u, reads⟩ := occursPlaces.mp occurs
  obtain ⟨above, below, rfl, count⟩ := Text.lineInside found
  obtain ⟨w, reads⟩ := signs.kept reads ((above ++ passed).getLastD ' ') below
  exact ⟨above ++ passed, rest ++ below, rfl, count, readsRun reads⟩

theorem signMissing : s.excerptIf minded sign context = none ↔
    minded = false ∨ ∀ n, ¬StandsOn sign s.markup n := by
  rw [Subject.excerptIf]
  cases minded with
  | false => exact iff_of_true rfl (.inl rfl)
  | true =>
    rw [if_pos rfl, excerptNone, or_iff_right Bool.true_eq_false.mp]
    constructor
    · rintro none n ⟨text, found, occurs⟩
      cases (none text (List.mem_of_getElem? found)).symm.trans occurs
    · intro none text member
      obtain ⟨n, found⟩ := List.mem_iff_getElem?.mp member
      exact Bool.eq_false_iff.mpr fun occurs => none n ⟨text, found, occurs⟩

theorem signFirst {e : Evidence} (found : s.excerptIf minded sign context = some e) :
    1 ≤ e.line ∧ StandsOn sign s.markup (e.line - 1) ∧
      ∀ n, StandsOn sign s.markup n → e.line ≤ n + 1 := by
  rw [Subject.excerptIf] at found
  split at found
  · obtain ⟨one, stands⟩ := excerptLine found
    exact ⟨one, stands, fun n ⟨text, there, occurs⟩ => excerptFirst found there occurs⟩
  · cases found

theorem Signs.shows (signs : Signs offence sign sure) (decided : minded = offence.occursIn s.markup)
    (judged : v.passed = !minded) (shown : v.evidence = s.excerptIf minded sign context) :
    ShowsSign s.markup offence sign sure v where
  failed := by rw [startsOccurs, judged, Bool.not_eq_false', decided]
  missing := by rw [shown, signMissing, judged, Bool.not_eq_true']
  line := by
    intro e found
    obtain ⟨one, stands, -⟩ := signFirst (shown.symm.trans found)
    exact ⟨one, stands⟩
  early := by
    intro n stands
    have starts := signs.starts stands
    have signed := signs.stands stands
    have mind : minded = true := decided.trans (startsOccurs.mp ⟨n, starts⟩)
    rw [shown]
    cases found : s.excerptIf minded sign context with
    | none =>
      rcases signMissing.mp found with unminded | unsigned
      · cases mind.symm.trans unminded
      · exact absurd signed (unsigned n)
    | some e => exact ⟨starts, e, rfl, (signFirst found).2.2 n signed⟩
  just := by
    intro e found
    obtain ⟨one, stands, first⟩ := signFirst (shown.symm.trans found)
    constructor
    · intro starts
      refine ⟨e.line - 1, starts, stands, fun m above signed => ?_⟩
      have behind := first m signed
      omega
    -- The reported line is the first with a sign, and all signs above the line with both belong to
    -- an offence.
    · rintro ⟨n, starts, signed, clear⟩
      have above := first n signed
      rcases Nat.lt_or_eq_of_le (Nat.sub_le_of_le_add above) with before | rfl
      · exact clear _ before stands
      · exact starts

theorem keptReading (reads : sure.reading = true)
    (within : ∀ {t text u}, sure.Reads t text u → ∃ v, offence.Reads t text v) {before : Char}
    {text : List Char} {u : Trail} (there : sure.Reads (.start before) text u) (before' : Char)
    (more : List Char) : ∃ v, offence.Reads (.start before') (text ++ more) v := by
  obtain ⟨part, taken⟩ := readsTaken sure there
  obtain ⟨rest, rfl⟩ := taken.starts
  rw [List.append_assoc]
  obtain ⟨w, again⟩ := takesReads reads taken.kind (.start before') (rest ++ more)
  exact within again

theorem focusSigns : Signs focusWithoutOutline (of [focusRule]) focusWithoutOutline where
  signed := by
    intro t text u reads
    obtain ⟨name, _, rfl, keys, gap, _, rfl, blank, reads⟩ := (lettersRead ":focus").mp reads
    obtain ⟨rest, rfl, -⟩ := (verbatimRead "\x7b").mp reads
    exact ⟨_, (lettersRead ":focus").mpr ⟨name, _, rfl, keys, gap, _, rfl, blank,
      (verbatimRead "\x7b").mpr ⟨rest, rfl, rfl⟩⟩⟩
  kept := keptReading rfl fun reads => ⟨_, reads⟩

theorem linkSigns : Signs genericLink genericLinkStart directLink where
  signed := by
    intro t text u reads
    obtain ⟨name, _, rfl, keys, fields, _, rfl, within, reads⟩ := (lettersRead "<a").mp reads
    obtain ⟨_, rfl, behind⟩ := (verbatimRead ">").mp reads
    obtain ⟨word, member, behind⟩ := (anyOfRead (List.cons_ne_nil _ _)).mp behind
    obtain ⟨read, rest, rfl, same, -⟩ := (lettersRead word).mp behind
    exact ⟨_, (lettersRead "<a").mpr ⟨name, _, rfl, keys, fields, _, rfl, within,
      (verbatimRead ">").mpr ⟨_, rfl, (anyOfRead (List.cons_ne_nil _ _)).mpr ⟨word, member,
        (lettersRead word).mpr ⟨read, rest, rfl, same, rfl⟩⟩⟩⟩⟩
  kept := keptReading rfl fun reads => by
    obtain ⟨name, _, rfl, keys, fields, _, rfl, within, reads⟩ := (lettersRead "<a").mp reads
    obtain ⟨_, rfl, behind⟩ := (verbatimRead ">").mp reads
    obtain ⟨word, member, behind⟩ := (anyOfRead (List.cons_ne_nil _ _)).mp behind
    exact ⟨_, (lettersRead "<a").mpr ⟨name, _, rfl, keys, fields, _, rfl, within,
      (verbatimRead ">").mpr ⟨_, rfl, [], _, rfl, nofun, (anyOfRead (List.cons_ne_nil _ _)).mpr
        ⟨word, List.mem_append_left ["link"] member, behind⟩⟩⟩⟩

theorem sheetSigns : Signs blockingStylesheet stylesheetLink blockingStylesheet where
  signed := by
    intro t text u reads
    obtain ⟨name, _, rfl, keys, reads⟩ := (lettersRead _).mp reads
    obtain ⟨fields, _, rfl, filled, within, reads⟩ := someRead.mp reads
    obtain ⟨field, rest, rfl, named, -⟩ := fieldRead.mp reads
    exact ⟨_, (lettersRead _).mpr ⟨name, _, rfl, keys, someRead.mpr ⟨fields, _, rfl, filled, within,
      fieldRead.mpr ⟨field, rest, rfl, named, rfl⟩⟩⟩⟩
  kept := by
    -- What is looked for ahead ends with the tag, so it does not matter what follows.
    intro before text u reads before' more
    obtain ⟨t, matched⟩ := readsRun reads
    obtain ⟨body, rest, link, -, loads⟩ := blockingMatched matched
    have longer : LinkTag (text ++ more) body (rest ++ more) :=
      ⟨by rw [link.whole, List.append_assoc, List.cons_append], link.single, link.named⟩
    obtain ⟨w, again⟩ := blockingRead longer loads
    exact ⟨w, runReads again⟩

theorem signShown (looks : LooksFor s rule offence sign sure) :
    ∃ check v, checks.find? rule = some check ∧ check.run s = .ok v ∧
      ShowsSign s.markup offence sign sure v := by
  cases looks with
  | focus => exact ⟨_, focusIndicators s, rfl, rfl, focusSigns.shows rfl rfl rfl⟩
  | link =>
    have decided : (s.count genericLink != 0) = genericLink.occursIn s.markup := by
      rw [bne, countNone, Bool.not_not]
      rfl
    exact ⟨_, linkText s, rfl, rfl, linkSigns.shows decided (Bool.not_not _).symm rfl⟩
  | sheet free =>
    obtain ⟨v, ended⟩ := failingRun "render blocking" (renderBlockingSure s)
    have later := failingEnded ended
    unfold renderBlocking at later
    extract_lets scripts stylesheets at later
    have empty : scripts.isEmpty = true := List.isEmpty_iff.mpr free
    rw [if_pos empty] at later
    obtain rfl := Except.ok.inj later
    have decided : (!stylesheets.isEmpty) = blockingStylesheet.occursIn s.markup := by
      rw [Bool.eq_iff_iff, occursCount, ← findAllCount, Bool.not_eq_true',
        List.isEmpty_eq_false_iff, Ne, Ne, List.length_eq_zero_iff]
      rfl
    have judged : (scripts.isEmpty && stylesheets.isEmpty) = !!stylesheets.isEmpty := by
      rw [empty, Bool.true_and, Bool.not_not]
    exact ⟨_, _, rfl, ended, sheetSigns.shows decided judged rfl⟩

theorem printSheetShown :
    let s : Subject := ⟨("<link rel='stylesheet' media='print'>\n" ++
      "<link rel='stylesheet'>").toList, .empty, "https://a.b/"⟩
    s.findAll blockingScript = [] ∧ ¬StartsOn blockingStylesheet s.markup 0 ∧
      StartsOn blockingStylesheet s.markup 1 ∧
      ∃ check v e, checks.find? "js-002" = some check ∧ check.run s = .ok v ∧
        v.evidence = some e ∧ e.line = 1 ∧
        ShowsSign s.markup blockingStylesheet stylesheetLink blockingStylesheet v := by
  intro s
  have free : s.findAll blockingScript = [] := by decide +kernel
  have innocent : ¬StartsOn blockingStylesheet s.markup 0 := by decide +kernel
  have blamed : StartsOn blockingStylesheet s.markup 1 := by decide +kernel
  obtain ⟨check, v, found, ended, shows⟩ := signShown (.sheet free)
  obtain rfl := Option.some.inj found
  have shown : (renderBlocking s).map (·.evidence.map (·.line)) = .ok (some 1) := by
    decide +kernel
  rw [failingEnded ended] at shown
  obtain ⟨e, located, first⟩ := Option.map_eq_some_iff.mp (Except.ok.inj shown)
  exact ⟨free, innocent, blamed, _, v, e, rfl, ended, located, first, shows⟩

theorem innocentRuleShown :
    let s : Subject := ⟨(":focus \x7b color: red \x7d\n" ++
      ":focus \x7b outline: none \x7d").toList, .empty, "https://a.b/"⟩
    ∃ check v e, checks.find? "wcag-005" = some check ∧ check.run s = .ok v ∧
      v.passed = false ∧ v.evidence = some e ∧ 1 ≤ e.line ∧
      ¬StartsOn focusWithoutOutline s.markup (e.line - 1) := by
  intro s
  have shown : (focusIndicators s).evidence.map (·.line) = some 1 := by decide +kernel
  obtain ⟨e, located, first⟩ := Option.map_eq_some_iff.mp shown
  refine ⟨_, focusIndicators s, e, rfl, rfl, by decide +kernel, located, first ▸ Nat.le_refl 1, ?_⟩
  rw [first]
  decide +kernel

end

end PageAudit.Check
