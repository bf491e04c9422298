import PageAudit.Proofs.Report.ScoreBar
import PageAudit.Proofs.Report.Sections
/-!
The parts of a report below its header. They are printed if the score is one and none of the texts
that stand among tags has a tag in it.
-/
namespace PageAudit

structure Violation.Unmarked (v : Violation) : Prop where
  ruleName : Terminal.Unmarked v.ruleName.toList
  id : Terminal.Unmarked v.id.toList
  recommendation : Terminal.Unmarked v.recommendation.toList
  source : ∀ source, v.source? = some source → Terminal.Unmarked source.toList

structure Analysis.Unmarked (a : Analysis) : Prop where
  name : Terminal.Unmarked a.siteName.toList
  score : 0 ≤ a.score ∧ a.score ≤ 100
  violations : ∀ v ∈ a.violations, v.Unmarked
  recommendations : ∀ line ∈ a.recommendations, Terminal.Unmarked line.toList

namespace Report

open Terminal

def Prints (part : Section) : Prop := ∃ ls, part.lines = .ok ls

theorem partsPrinted {parts : List Section} :
    (∃ ls, linesOf parts = .ok ls) ↔ ∀ part ∈ parts, Prints part := by
  simp only [linesPrinted]
  constructor
  · rintro ⟨ls, printed⟩
    induction printed with
    | done => nofun
    | next read later ih => exact List.forall_mem_cons.mpr ⟨⟨_, read⟩, ih⟩
  · intro each
    induction parts with
    | nil => exact ⟨[], .done⟩
    | cons part parts ih =>
      obtain ⟨⟨ls, here⟩, others⟩ := List.forall_mem_cons.mp each
      obtain ⟨more, later⟩ := ih others
      exact ⟨ls ++ more, .next here later⟩

theorem stackPrinted {written : List Written} (each : ∀ w ∈ written, ∃ ls, w = .ok ls) :
    ∃ ls, stack written = .ok ls := by
  induction written with
  | nil => exact ⟨[], rfl⟩
  | cons w written ih =>
    obtain ⟨⟨ls, here⟩, others⟩ := List.forall_mem_cons.mp each
    obtain ⟨more, later⟩ := ih others
    exact ⟨ls ++ more, by simp only [stack, here, later]⟩

theorem scorePrints {score : Int} (within : 0 ≤ score ∧ score ≤ 100) (summary : Summary) :
    Prints (.score score summary) := by
  have narrow : ScoreBar.reportWidth ≤ 2 ^ 40 := by decide
  obtain ⟨bar, shown, -⟩ := ScoreBar.barFilled within narrow summary.passed summary.total
  rw [Prints, Section.lines, scoreLines, shown]
  exact ⟨_, rfl⟩

section
variable {v : Violation} {words : List Char}

theorem entryPrints (unmarked : v.Unmarked) {color : String} (style : isStyle color.toList = true)
    {icon : Char} (tame : isTame icon = true) :
    ∃ ls, marked ("  [" ++ color ++ "]" ++ toString icon ++ "[/] [bold]" ++ v.ruleName ++
      "[/bold] [dim](" ++ v.id ++ ")[/dim]") = .ok ls := by
  let parts : List Styled := [⟨color.toList, [icon], false, [' ']⟩,
    ⟨"bold".toList, v.ruleName.toList, true, [' ']⟩,
    ⟨"dim".toList, "(".toList ++ v.id.toList ++ [')'], true, []⟩]
  have number : Unmarked ("(".toList ++ v.id.toList ++ [')']) :=
    Unmarked.before (unmarked.id.after (tameText (by decide))).free (tameText (by decide))
      (by decide) (by decide)
  have space : Unmarked [' '] := unmarkedText (by decide)
  have fine : ∀ s ∈ parts, s.Fine := by
    refine List.forall_mem_cons.mpr ⟨⟨style, ?_, space⟩, List.forall_mem_cons.mpr ⟨?_, ?_⟩⟩
    · exact unmarkedTame (List.forall_mem_singleton.mpr tame)
    · exact ⟨boldStyle, unmarked.ruleName, space⟩
    · exact List.forall_mem_singleton.mpr ⟨dimStyle, number, unmarkedNothing⟩
  refine ⟨_, markedStyled (unmarkedText (by decide : "  ".toList.all isTame = true)) fine ?_⟩
  have single : (toString icon).toList = [icon] := String.toList_singleton icon
  simp [parts, Styled.write, Styled.closed, single]

theorem dimPrints {text : String} (unmarked : Unmarked words)
    (written : text.toList = "    [dim]".toList ++ (words ++ "[/dim]".toList)) :
    ∃ ls, marked text = .ok ls := by
  have part : (⟨"dim".toList, words, true, []⟩ : Styled).Fine :=
    ⟨dimStyle, unmarked, unmarkedNothing⟩
  refine ⟨_, markedStyle (unmarkedText (by decide : "    ".toList.all isTame = true)) part ?_⟩
  rw [written]
  simp [Styled.write, Styled.closed]

theorem sourcePrints (unmarked : v.Unmarked) : ∃ ls, sourceLines v = .ok ls := by
  unfold sourceLines
  split
  · rename_i source kept
    have given := (Option.filter_eq_some_iff.mp kept).1
    have tame : "Source: ".toList.all isTame = true := by decide
    refine dimPrints ((unmarked.source source given).after (tameText tame)) ?_
    change ("    [dim]Source: " ++ source ++ "[/dim]").toList = _
    simp
  · exact ⟨[], rfl⟩

theorem excerptPrints (v : Violation) : ∃ ls, excerptLines v = .ok ls := by
  unfold excerptLines
  split
  · rename_i e kept
    have line : ∀ c ∈ "Line ".toList ++ (toString e.line).toList ++ [':'], isTame c = true := by
      refine List.forall_mem_append.mpr ⟨List.forall_mem_append.mpr ⟨tameText (by decide), ?_⟩,
        tameText (by decide)⟩
      exact fun c member => (numberTame e.line c member).1
    refine stackPrinted (List.forall_mem_cons.mpr ⟨?_, List.forall_mem_singleton.mpr ⟨_, rfl⟩⟩)
    refine dimPrints (unmarkedTame line) ?_
    change ("    [dim]Line " ++ toString e.line ++ ":[/dim]").toList = _
    simp
  · exact ⟨[], rfl⟩

theorem recommendationPrints (unmarked : v.Unmarked) :
    ∃ ls, marked ("    [cyan]→[/cyan] " ++ v.recommendation) = .ok ls := by
  have part : (⟨"cyan".toList, ['→'], true, [' '] ++ v.recommendation.toList⟩ : Styled).Fine := by
    have arrow : Unmarked ['→'] := unmarkedText (by decide)
    refine ⟨(by decide : isStyle "cyan".toList = true), arrow, ?_⟩
    exact unmarked.recommendation.after (tameText (by decide : [' '].all isTame = true))
  refine ⟨_, markedStyle (unmarkedText (by decide : "    ".toList.all isTame = true)) part ?_⟩
  simp [Styled.write, Styled.closed]

theorem issuePrints (unmarked : v.Unmarked) (verbose : Bool) : Prints (.issue v verbose) := by
  have color : isStyle v.severity.color.name.toList = true := by
    cases v.severity <;> decide
  have icon : isTame v.severity.icon = true := by
    cases v.severity <;> decide
  have more : ∃ ls, (if verbose then stack [sourceLines v, excerptLines v] else .ok []) = .ok ls := by
    cases verbose with
    | false => exact ⟨[], rfl⟩
    | true =>
      exact stackPrinted (List.forall_mem_cons.mpr ⟨sourcePrints unmarked,
        List.forall_mem_singleton.mpr (excerptPrints v)⟩)
  obtain ⟨ls, printed⟩ := stackPrinted (List.forall_mem_cons.mpr ⟨entryPrints unmarked color icon,
    List.forall_mem_cons.mpr ⟨⟨plain ("    " ++ v.details), rfl⟩, List.forall_mem_cons.mpr
      ⟨more, List.forall_mem_singleton.mpr (recommendationPrints unmarked)⟩⟩⟩)
  exact ⟨ls, congrArg Section.ofMarked printed⟩

theorem advicePrints {line : String} (unmarked : Unmarked line.toList) (number : Nat) :
    Prints (.advice number line) := by
  have tame : ∀ c ∈ "  ".toList ++ (toString number).toList ++ ". ".toList, isTame c = true := by
    refine List.forall_mem_append.mpr ⟨List.forall_mem_append.mpr ⟨tameText (by decide), ?_⟩,
      tameText (by decide)⟩
    exact fun c member => (numberTame number c member).1
  have written : ("  " ++ toString number ++ ". " ++ line).toList =
      ("  ".toList ++ (toString number).toList ++ ". ".toList ++ line.toList) ++
        [].flatMap Styled.write := by
    simp
  have printed := markedStyled (unmarked.after tame) (List.forall_mem_nil _) written
  exact ⟨_, congrArg Section.ofMarked printed⟩

theorem titlePrints (text : String) (words : List Char) (tame : words.all isTame = true)
    (written : text.toList = "\n[bold]".toList ++ (words ++ "[/bold]\n".toList)) :
    ∃ ls, marked text = .ok ls := by
  have newline : Unmarked ['\n'] := ⟨by decide, by decide⟩
  have part : (⟨"bold".toList, words, true, ['\n']⟩ : Styled).Fine :=
    ⟨boldStyle, unmarkedText tame, newline⟩
  refine ⟨_, markedStyle newline part ?_⟩
  rw [written]
  simp [Styled.write, Styled.closed]

theorem issuesPrint {violations : List Violation} (unmarked : ∀ v ∈ violations, v.Unmarked)
    (verbose : Bool) : ∀ part ∈ issues verbose violations, Prints part := by
  have title : Prints .issuesTitle := by
    obtain ⟨ls, printed⟩ := titlePrints "\n[bold]Issues Found:[/bold]\n"
      "Issues Found:".toList (by decide) (by decide)
    exact ⟨ls, congrArg Section.ofMarked printed⟩
  have entries : ∀ part ∈ (shownViolations verbose violations).map (Section.issue · verbose),
      Prints part := by
    intro part member
    obtain ⟨v, shown, rfl⟩ := List.mem_map.mp member
    have among : v ∈ violations := by
      unfold shownViolations at shown
      split at shown
      · exact shown
      · exact (List.mem_filter.mp shown).1
    exact issuePrints (unmarked v among) verbose
  have note (count : Nat) : ∀ part ∈ hiddenNote count, Prints part := by
    unfold hiddenNote
    split
    · nofun
    · exact List.forall_mem_singleton.mpr ⟨_, hiddenPrints count⟩
  unfold issues
  dsimp only
  split
  · nofun
  · rw [List.cons_append]
    exact List.forall_mem_cons.mpr ⟨title, List.forall_mem_append.mpr ⟨entries, note _⟩⟩

theorem adviceFromPrints {lines : List String} (unmarked : ∀ line ∈ lines, Unmarked line.toList)
    (number : Nat) : ∀ part ∈ adviceFrom number lines, Prints part := by
  induction lines generalizing number with
  | nil => nofun
  | cons line lines ih =>
    obtain ⟨first, others⟩ := List.forall_mem_cons.mp unmarked
    exact List.forall_mem_cons.mpr ⟨advicePrints first number, ih others (number + 1)⟩

theorem allAdvicePrints {lines : List String} (unmarked : ∀ line ∈ lines, Unmarked line.toList) :
    ∀ part ∈ advice lines, Prints part := by
  unfold advice
  split
  · nofun
  · obtain ⟨ls, printed⟩ := titlePrints "\n[bold]🎯 Top Recommendations:[/bold]\n"
      "🎯 Top Recommendations:".toList (by decide) (by decide)
    exact List.forall_mem_cons.mpr
      ⟨⟨ls, congrArg Section.ofMarked printed⟩, adviceFromPrints unmarked 1⟩

end

def below (verbose : Bool) (a : Analysis) : List Section :=
  [.score a.score a.summary, .counts a.summary] ++ issues verbose a.violations ++
    advice a.recommendations ++ [.footer]

theorem belowPrints {a : Analysis} (unmarked : a.Unmarked) (verbose : Bool) :
    ∀ part ∈ below verbose a, Prints part := by
  have start : ∀ part ∈ [Section.score a.score a.summary, .counts a.summary], Prints part :=
    List.forall_mem_cons.mpr
      ⟨scorePrints unmarked.score a.summary, List.forall_mem_singleton.mpr ⟨_, rfl⟩⟩
  have body := List.forall_mem_append.mpr ⟨start, issuesPrint unmarked.violations verbose⟩
  have advised := List.forall_mem_append.mpr ⟨body, allAdvicePrints unmarked.recommendations⟩
  exact List.forall_mem_append.mpr ⟨advised, List.forall_mem_singleton.mpr ⟨_, rfl⟩⟩

end Report

end PageAudit
