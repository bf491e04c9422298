import PageAudit.Proofs.Failure
import PageAudit.Proofs.Terminal.Line
import PageAudit.Proofs.Terminal.Markup
import PageAudit.Report.Basic
import PageAudit.Rule.Catalog
/-!
The sections of a report. A report prints them one after the other, and the violations that it shows
and those that it counts as left out are those of its sections.
-/
namespace PageAudit

namespace Report

open Terminal

inductive Printed : List Section → List (List Char) → Prop
  | done : Printed [] []
  | next {first : Section} {rest : List Section} {ls more : List (List Char)}
    (read : first.lines = .ok ls) (later : Printed rest more) : Printed (first :: rest) (ls ++ more)

theorem linesPrinted {sections : List Section} {ls : List (List Char)} :
    linesOf sections = .ok ls ↔ Printed sections ls := by
  constructor
  · intro read
    induction sections generalizing ls with
    | nil =>
      obtain rfl := Except.ok.inj read
      exact .done
    | cons first rest ih =>
      rw [linesOf] at read
      split at read
      · cases read
      · rename_i one here
        split at read
        · cases read
        · rename_i more later
          obtain rfl := Except.ok.inj read
          exact .next here (ih later)
  · intro printed
    induction printed with
    | done => rfl
    | next read later ih =>
      rw [linesOf]
      simp only [read, ih]

def shownIn : List Section → List Violation
  | [] => []
  | .issue v _ :: rest => v :: shownIn rest
  | _ :: rest => shownIn rest

def announcedIn : List Section → Nat
  | [] => 0
  | .hidden count :: rest => count + announcedIn rest
  | _ :: rest => announcedIn rest

theorem shownAppend (first rest : List Section) :
    shownIn (first ++ rest) = shownIn first ++ shownIn rest := by
  induction first with
  | nil => rfl
  | cons one first ih => cases one <;> simp only [List.cons_append, shownIn, ih]

theorem announcedAppend (first rest : List Section) :
    announcedIn (first ++ rest) = announcedIn first + announcedIn rest := by
  induction first with
  | nil => exact (Nat.zero_add _).symm
  | cons one first ih =>
    cases one <;> simp only [List.cons_append, announcedIn, ih, Nat.add_assoc]

theorem adviceSilent (number : Nat) (lines : List String) :
    shownIn (adviceFrom number lines) = [] ∧ announcedIn (adviceFrom number lines) = 0 := by
  induction lines generalizing number with
  | nil => exact ⟨rfl, rfl⟩
  | cons line lines ih => exact ih (number + 1)

theorem issuesShown (verbose : Bool) (violations : List Violation) :
    shownIn (violations.map (Section.issue · verbose)) = violations ∧
      announcedIn (violations.map (Section.issue · verbose)) = 0 := by
  induction violations with
  | nil => exact ⟨rfl, rfl⟩
  | cons v rest ih => exact ⟨congrArg (v :: ·) ih.1, ih.2⟩

theorem noteSilent (count : Nat) :
    shownIn (hiddenNote count) = [] ∧ announcedIn (hiddenNote count) = count := by
  unfold hiddenNote
  split
  · rename_i none
    exact ⟨rfl, none.symm⟩
  · exact ⟨rfl, rfl⟩

theorem pressingKind (v : Violation) : isPressing v = true ↔ v.severity ≠ .info := by
  unfold isPressing
  cases v.severity <;> decide

theorem shownBriefly (violations : List Violation) :
    shownViolations false violations = violations.filter fun v => v.severity ≠ .info := by
  refine List.filter_congr fun v _ => ?_
  rw [Bool.eq_iff_iff, pressingKind, decide_eq_true_iff]

theorem leftOut (violations : List Violation) :
    violations.length - (shownViolations false violations).length =
      Analysis.countOf .info violations := by
  have parts := List.length_eq_countP_add_countP (fun v => decide (v.severity ≠ .info))
    (l := violations)
  have info : Analysis.countOf .info violations =
      violations.countP fun v => ¬decide (v.severity ≠ .info) = true := by
    refine List.countP_congr fun v _ => ?_
    cases v.severity <;> decide
  rw [shownBriefly, ← List.countP_eq_length_filter, info]
  omega

theorem issuesAccount (violations : List Violation) :
    shownIn (issues false violations) = violations.filter (fun v => v.severity ≠ .info) ∧
      announcedIn (issues false violations) =
        if ∃ v ∈ violations, v.severity ≠ .info then Analysis.countOf .info violations else 0 := by
  rw [← shownBriefly, ← leftOut]
  have pressing : (shownViolations false violations).isEmpty = true ↔
      ¬∃ v ∈ violations, v.severity ≠ .info := by
    rw [shownBriefly, List.isEmpty_iff, List.filter_eq_nil_iff]
    simp only [decide_eq_true_eq, not_exists, not_and]
  unfold issues
  dsimp only
  split
  · rename_i nothing
    rw [if_neg (pressing.mp nothing), List.isEmpty_iff.mp nothing]
    exact ⟨rfl, rfl⟩
  · rename_i something
    obtain ⟨all, silent⟩ := issuesShown false (shownViolations false violations)
    obtain ⟨none, told⟩ :=
      noteSilent (violations.length - (shownViolations false violations).length)
    rw [if_pos (not_not.mp (pressing.not.mp something)), List.cons_append]
    simp only [shownIn, announcedIn, shownAppend, announcedAppend, all, silent, none, told,
      List.append_nil, Nat.zero_add, and_self]

theorem adviceNothing (lines : List String) :
    shownIn (advice lines) = [] ∧ announcedIn (advice lines) = 0 := by
  unfold advice
  split
  · exact ⟨rfl, rfl⟩
  · exact adviceSilent 1 lines

theorem sectionsAccount (a : Analysis) :
    shownIn (sections false a) = shownIn (issues false a.violations) ∧
      announcedIn (sections false a) = announcedIn (issues false a.violations) := by
  obtain ⟨none, silent⟩ := adviceNothing a.recommendations
  unfold sections
  simp only [shownAppend, announcedAppend, none, silent]
  simp [shownIn, announcedIn]

theorem adviceFromPart (number : Nat) (lines : List String) :
    ∀ part ∈ adviceFrom number lines, ∃ n line, part = .advice n line := by
  induction lines generalizing number with
  | nil => nofun
  | cons line lines ih => exact List.forall_mem_cons.mpr ⟨⟨number, line, rfl⟩, ih (number + 1)⟩

theorem advicePart {lines : List String} {part : Section} (member : part ∈ advice lines) :
    part = .adviceTitle ∨ ∃ n line, part = .advice n line := by
  unfold advice at member
  split at member
  · cases member
  · exact (List.mem_cons.mp member).imp_right (adviceFromPart 1 lines part)

theorem hiddenPart {a : Analysis} {count : Nat} (told : .hidden count ∈ sections false a) :
    count = Analysis.countOf .info a.violations ∧ ∃ v ∈ a.violations, v.severity ≠ .info := by
  have among : .hidden count ∈ issues false a.violations := by
    simp only [sections, List.mem_append, List.mem_cons, List.not_mem_nil, or_false, reduceCtorEq,
      false_or] at told
    refine told.resolve_right fun advised => ?_
    rcases advicePart advised with same | ⟨n, line, same⟩ <;> cases same
  unfold issues at among
  dsimp only at among
  split at among
  · cases among
  · rename_i something
    simp only [hiddenNote, List.mem_cons, List.mem_append, List.mem_map, reduceCtorEq, false_or,
      and_false, exists_false] at among
    split at among
    · cases among
    · obtain ⟨rfl⟩ := List.mem_singleton.mp among
      rw [shownBriefly, List.isEmpty_iff, List.filter_eq_nil_iff] at something
      exact ⟨leftOut a.violations, by simpa using something⟩

theorem digitTame {c : Char} (digit : c.isDigit = true) : isTame c = true ∧ c ≠ ':' := by
  simp only [Char.isDigit, Bool.and_eq_true, decide_eq_true_eq] at digit
  have low : 48 ≤ c.toNat := UInt32.le_iff_toNat_le.mp digit.1
  have high : c.toNat ≤ 57 := UInt32.le_iff_toNat_le.mp digit.2
  refine ⟨by simp only [isTame, Bool.or_eq_true, Bool.and_eq_true, decide_eq_true_eq]; omega, ?_⟩
  rintro rfl
  exact absurd high (by decide)

theorem markedStyled {lead : List Char} {parts : List Styled} (start : Unmarked lead)
    (fine : ∀ s ∈ parts, s.Fine) {text : String}
    (written : text.toList = lead ++ parts.flatMap Styled.write) :
    marked text = .ok (Terminal.lines (plainShown lead ++ parts.flatMap Styled.shown)) := by
  rw [marked, shownStyled start fine written]

theorem markedStyle {lead : List Char} {s : Styled} (start : Unmarked lead) (fine : s.Fine)
    {text : String} (written : text.toList = lead ++ s.write) :
    marked text = .ok (Terminal.lines (plainShown lead ++ s.shown)) := by
  rw [← List.flatMap_singleton Styled.write] at written
  rw [markedStyled start (List.forall_mem_singleton.mpr fine) written, List.flatMap_singleton]

theorem dimStyle : isStyle "dim".toList = true := by decide

theorem boldStyle : isStyle "bold".toList = true := by decide

def hiddenWords (count : Nat) : List Char :=
  "+ ".toList ++ (toString count).toList ++
    " info-level issue(s); use --verbose to show them".toList

theorem numberTame (n : Nat) : ∀ c ∈ (toString n).toList, isTame c = true ∧ c ≠ ':' := by
  change ∀ c ∈ n.repr.toList, _
  rw [Nat.toList_repr]
  exact fun c member => digitTame (Nat.isDigit_of_mem_toDigits (by decide) (by decide) member)

theorem hiddenTame (count : Nat) : ∀ c ∈ hiddenWords count, isTame c = true ∧ c ≠ ':' := by
  have known : ∀ text : List Char, text.all (fun c => isTame c && c != ':') = true →
      ∀ c ∈ text, isTame c = true ∧ c ≠ ':' := by
    intro text all c member
    simpa using List.all_eq_true.mp all c member
  exact List.forall_mem_append.mpr ⟨List.forall_mem_append.mpr
    ⟨known "+ ".toList (by decide), numberTame count⟩, known _ (by decide)⟩

theorem hiddenPrints (count : Nat) :
    (Section.hidden count).lines = .ok [[], ' ' :: ' ' :: hiddenWords count] := by
  have tame := fun c member => (hiddenTame count c member).1
  have colonless : ':' ∉ hiddenWords count := fun member => (hiddenTame count _ member).2 rfl
  have part : (⟨"dim".toList, hiddenWords count, true, []⟩ : Styled).Fine :=
    ⟨dimStyle, unmarkedTame tame, unmarkedNothing⟩
  have written : ("\n  [dim]+ " ++ toString count ++
      " info-level issue(s); use --verbose to show them[/dim]").toList =
      "\n  ".toList ++ Styled.write ⟨"dim".toList, hiddenWords count, true, []⟩ := by
    simp [Styled.write, Styled.closed, hiddenWords]
  have lead : plainShown "\n  ".toList = [] ++ '\n' :: [' ', ' '] := by decide
  have visible : Visible (' ' :: ' ' :: hiddenWords count) :=
    List.forall_mem_cons.mpr ⟨by decide, List.forall_mem_cons.mpr ⟨by decide, visibleTame tame⟩⟩
  have whole : plainShown "\n  ".toList ++
      Styled.shown ⟨"dim".toList, hiddenWords count, true, []⟩ =
      [] ++ '\n' :: (' ' :: ' ' :: hiddenWords count) := by
    have nothing : plainShown [] = [] := rfl
    rw [Styled.shown, plainKept tame colonless, nothing, lead, List.append_nil]
    rfl
  have shown := markedStyle ⟨by decide, by decide⟩ part written
  rw [whole, linesJoin, linesVisible visible] at shown
  exact congrArg Section.ofMarked shown

theorem briefReportAccounts (a : Analysis) :
    (∀ ls, Report.lines false a = .ok ls ↔ Printed (sections false a) ls) ∧
    shownIn (sections false a) = a.violations.filter (fun v => v.severity ≠ .info) ∧
    ((shownIn (sections false a)).length + announcedIn (sections false a) = a.violations.length ↔
      a.violations = [] ∨ ∃ v ∈ a.violations, v.severity ≠ .info) ∧
    ((∀ v ∈ a.violations, v.severity = .info) →
      shownIn (sections false a) = [] ∧ ∀ count, .hidden count ∉ sections false a) ∧
    ∀ count, .hidden count ∈ sections false a → count = Analysis.countOf .info a.violations ∧
      (Section.hidden count).lines = .ok [[], ' ' :: ' ' :: hiddenWords count] := by
  obtain ⟨shown, announced⟩ := issuesAccount a.violations
  obtain ⟨sameShown, sameAnnounced⟩ := sectionsAccount a
  rw [sameShown, sameAnnounced, shown, announced]
  refine ⟨fun ls => linesPrinted, rfl, ?_, fun plain => ⟨?_, fun count told => ?_⟩, ?_⟩
  · have parts : (a.violations.filter fun v => v.severity ≠ .info).length +
        Analysis.countOf .info a.violations = a.violations.length := by
      rw [← leftOut, ← shownBriefly]
      have fewer := List.length_filter_le isPressing a.violations
      simp only [shownViolations, Bool.false_eq_true, if_false]
      omega
    by_cases pressing : ∃ v ∈ a.violations, v.severity ≠ .info
    · rw [if_pos pressing]
      exact iff_of_true parts (.inr pressing)
    · have none : (a.violations.filter fun v => v.severity ≠ .info) = [] := by
        refine List.filter_eq_nil_iff.mpr fun v member worse => pressing ⟨v, member, ?_⟩
        exact of_decide_eq_true worse
      rw [if_neg pressing, none, or_iff_left pressing, ← List.length_eq_zero_iff, eq_comm]
      rfl
  · exact List.filter_eq_nil_iff.mpr fun v member => by simp [plain v member]
  · obtain ⟨v, member, pressing⟩ := (hiddenPart told).2
    exact pressing (plain v member)
  · exact fun count told => ⟨(hiddenPart told).1, hiddenPrints count⟩

theorem quietJoined {p : List Char → Bool} {parts : List Section}
    (quiet : ∀ part ∈ parts, part.lines.map (·.any p) = .ok false) :
    (linesOf parts).map (·.any p) = .ok false := by
  induction parts with
  | nil => rfl
  | cons part rest ih =>
    obtain ⟨first, others⟩ := List.forall_mem_cons.mp quiet
    have later := ih others
    unfold linesOf
    cases shown : part.lines with
    | error e => rw [shown] at first; cases first
    | ok ls =>
      cases more : linesOf rest with
      | error e => rw [more] at later; cases later
      | ok ms =>
        rw [shown] at first
        rw [more] at later
        simp only [Except.map, Except.ok.injEq, List.any_append] at first later ⊢
        rw [first, later, Bool.or_self]

theorem quietViolationUnannounced :
    let r := Catalog.searching[4]
    let a : Analysis := .ofJudged "https://a.b/" "now" [(r, ⟨false, "a", none, none⟩)]
    r ∈ catalog ∧ a.violations.length = 1 ∧
    (shownIn (sections false a)).length + announcedIn (sections false a) ≠ a.violations.length ∧
    (Report.lines false a).map (fun ls => ls.any (Text.holds "info-level".toList)) = .ok false := by
  intro r a
  have listed : r ∈ catalog := by
    simp [catalog, r]
  refine ⟨listed, by decide +kernel, by decide +kernel, quietJoined ?_⟩
  unfold sections
  simp only [List.forall_mem_append, List.forall_mem_cons]
  exact ⟨⟨⟨⟨by decide +kernel, by decide +kernel, by decide +kernel⟩, by decide +kernel⟩,
    by decide +kernel⟩, by decide +kernel⟩

end Report

end PageAudit
