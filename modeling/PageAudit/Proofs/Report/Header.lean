import Mathlib.Data.List.Basic
import PageAudit.Proofs.Report.Parts
import PageAudit.Proofs.Terminal.Word
import PageAudit.Audit
/-!
The header of a report. It shows the address of the site among tags, so it is printed and shows the
address as it is exactly if no part of the address is read as a tag, an escape or an emoji.
-/
namespace PageAudit

namespace Report

open Terminal

def HeaderShows (ls : List (List Char)) (url : String) : Prop :=
  ∃ rest, ls[3]? = some ('│' :: ' ' :: url.toList ++ ' ' :: rest)

structure Presentable (a : Analysis) : Prop where
  accepted : ∃ site, validateSite (some a.siteUrl) = .ok site
  printable : ∀ c ∈ a.siteUrl.toList, 33 ≤ c.toNat ∧ c.toNat ≤ 126
  short : Text.width (a.siteUrl.toList ++ " • ".toList ++ a.analyzedAt.toList) ≤ terminalWidth - 4
  name : '\n' ∉ a.siteName.toList
  stamp : ∀ c ∈ a.analyzedAt.toList, isTame c = true ∧ c ≠ ']'

def nameMarkup (name : String) : String := s!"[bold]{name}[/bold]"

def addressPart (url stamp : String) : Styled :=
  ⟨"dim".toList, url.toList ++ ' ' :: '•' :: ' ' :: stamp.toList, true, []⟩

theorem presentable {a : Analysis} (accepted : ∃ site, validateSite (some a.siteUrl) = .ok site)
    (printable : a.siteUrl.toList.all (fun c => 33 ≤ c.toNat && c.toNat ≤ 126) = true)
    (short : Text.width (a.siteUrl.toList ++ " • ".toList ++ a.analyzedAt.toList) ≤
      terminalWidth - 4)
    (name : '\n' ∉ a.siteName.toList)
    (stamp : a.analyzedAt.toList.all (fun c => isTame c && c != ']') = true) : Presentable a := by
  refine ⟨accepted, fun c member => ?_, short, name, fun c member => ?_⟩
  · simpa using List.all_eq_true.mp printable c member
  · simpa using List.all_eq_true.mp stamp c member

section
variable {a : Analysis} {out : List Char} {ls : List (List Char)}

theorem Presentable.spaceless (fit : Presentable a) : ' ' ∉ a.siteUrl.toList :=
  fun space => absurd (fit.printable _ space).1 (by decide)

theorem stampTame (stamp : ∀ c ∈ a.analyzedAt.toList, isTame c = true ∧ c ≠ ']') :
    ∀ c ∈ ' ' :: '•' :: ' ' :: a.analyzedAt.toList, isTame c = true ∧ c ≠ ']' := by
  refine List.forall_mem_cons.mpr ⟨by decide, List.forall_mem_cons.mpr ⟨by decide, ?_⟩⟩
  exact List.forall_mem_cons.mpr ⟨by decide, stamp⟩

theorem nameWritten (name : String) :
    (nameMarkup name).toList = "[bold]".toList ++ name.toList ++ "[/bold]".toList := by
  simp [nameMarkup, toString]

theorem nameShown (name : String) :
    shown (nameMarkup name) = readPieces [] (pieces (nameMarkup name).toList) :=
  if_pos (by simp [nameWritten])

theorem nameUnmarked {name : String} (unmarked : Unmarked name.toList) :
    ∃ out, shown (nameMarkup name) = .ok out := by
  have part : (⟨"bold".toList, name.toList, true, []⟩ : Styled).Fine :=
    ⟨boldStyle, unmarked, unmarkedNothing⟩
  have written : (nameMarkup name).toList =
      [] ++ [⟨"bold".toList, name.toList, true, []⟩].flatMap Styled.write := by
    simp [nameWritten, Styled.write, Styled.closed]
  exact ⟨_, shownStyled unmarkedNothing (List.forall_mem_singleton.mpr part) written⟩

theorem headerShown (a : Analysis) :
    shown s!"[bold]{a.siteName}[/bold]\n[dim]{a.siteUrl} • {a.analyzedAt}[/dim]" =
      readPieces [] (pieces ((nameMarkup a.siteName).toList ++
        '\n' :: (addressPart a.siteUrl a.analyzedAt).write)) := by
  have text : s!"[bold]{a.siteName}[/bold]\n[dim]{a.siteUrl} • {a.analyzedAt}[/dim]".toList =
      (nameMarkup a.siteName).toList ++ '\n' :: (addressPart a.siteUrl a.analyzedAt).write := by
    simp [nameWritten, addressPart, Styled.write, Styled.closed, toString]
  rw [shown, text]
  exact if_pos (by simp [nameWritten])

theorem literalPart (fit : Presentable a) (literal : Literal a.siteUrl.toList) :
    (addressPart a.siteUrl a.analyzedAt).Fine where
  style := dimStyle
  inside := by
    refine Unmarked.before literal.untagged (fun c member => ?_) (fun member => ?_)
      (List.cons_ne_nil _ _)
    · exact (stampTame fit.stamp c member).1
    · exact (stampTame fit.stamp _ member).2 rfl
  after := unmarkedNothing

/- The name is read first; a tag that it leaves open closes nothing in the address. -/
theorem headerRead (fit : Presentable a)
    (read : readPieces [] (pieces (nameMarkup a.siteName).toList) = .ok out) :
    ∃ styles first next, '\n' ∉ first ∧
      readPieces [] (pieces ((nameMarkup a.siteName).toList ++
        '\n' :: (addressPart a.siteUrl a.analyzedAt).write)) =
      (readPieces (styleName "dim".toList :: styles) (piecesFrom 0 next []
        ((addressPart a.siteUrl a.analyzedAt).closed ++ []))).map ((first ++ ['\n']) ++ ·) := by
  have whole : '\n' ∉ (nameMarkup a.siteName).toList := by
    simpa [nameWritten] using fit.name
  exact lineRead whole read dimStyle _

theorem headerPrints (fit : Presentable a) (literal : Literal a.siteUrl.toList)
    (read : shown (nameMarkup a.siteName) = .ok out) :
    Prints (.header a.siteName a.siteUrl a.analyzedAt) := by
  rw [nameShown] at read
  obtain ⟨styles, first, next, -, same⟩ := headerRead fit read
  obtain ⟨last, closed⟩ := closedRead (literalPart fit literal) styles next []
  obtain ⟨text, done⟩ : ∃ text, readPieces [] (pieces ((nameMarkup a.siteName).toList ++
      '\n' :: (addressPart a.siteUrl a.analyzedAt).write)) = .ok text := by
    rw [same]
    exact ⟨_, congrArg (Except.map _) closed⟩
  rw [Prints, Section.lines, headerLines, panel, marked, headerShown, done]
  exact ⟨_, rfl⟩

theorem wordSame {x y rest tail : List Char} (first : ' ' ∉ x) (second : ' ' ∉ y)
    (same : x ++ ' ' :: rest = y ++ ' ' :: tail) : x = y := by
  have cut {text : List Char} (spaceless : ' ' ∉ text) (more : List Char) :
      (text ++ ' ' :: more).takeWhile (· != ' ') = text := by
    rw [List.takeWhile_append_of_pos, List.takeWhile_cons_of_neg (by decide), List.append_nil]
    exact fun c member => bne_iff_ne.mpr fun space => spaceless (space ▸ member)
  rw [← cut first rest, same, cut second]

theorem namePrints (printed : Prints (.header a.siteName a.siteUrl a.analyzedAt)) :
    ∃ out, shown (nameMarkup a.siteName) = .ok out := by
  obtain ⟨ls, printed⟩ := printed
  rw [nameShown]
  cases read : readPieces [] (pieces (nameMarkup a.siteName).toList) with
  | ok out => exact ⟨out, rfl⟩
  | error e =>
    have closed : Sealed ('\n' :: (addressPart a.siteUrl a.analyzedAt).write) :=
      sealedCons (by decide) (sealedBracket _)
    rw [Section.lines, headerLines, panel, marked, headerShown, lineFails read closed] at printed
    cases printed

theorem addressShown (fit : Presentable a) {styles : List String} {next : Nat}
    (read : readPieces styles (piecesFrom 0 next []
      ((addressPart a.siteUrl a.analyzedAt).closed ++ [])) = .ok out) :
    ∃ word rest, out = word ++ ' ' :: rest ∧ ' ' ∉ word ∧ Visible word ∧
      (word = a.siteUrl.toList ↔ Literal a.siteUrl.toList) := by
  have apart : (addressPart a.siteUrl a.analyzedAt).closed ++ [] = a.siteUrl.toList ++
      ' ' :: ('•' :: ' ' :: a.analyzedAt.toList ++ "[/dim]".toList) := by
    simp [addressPart, Styled.closed]
  have tame := stampTame fit.stamp
  have closed : Sealed (' ' :: ('•' :: ' ' :: a.analyzedAt.toList ++ "[/dim]".toList)) :=
    sealedTag (fun c member => (tame c member).1) (fun member => (tame _ member).2 rfl) _
  rw [apart] at read
  obtain ⟨word, rest, same, alone, known, kept⟩ := wordShown fit.spaceless closed read
  refine ⟨word, rest, same, alone, fun c member => ?_, kept⟩
  rcases known c member with inside | harmless
  · exact Nat.le_of_succ_le (fit.printable c inside).1
  · exact visibleTame (List.forall_mem_singleton.mpr harmless) c (List.mem_singleton_self c)

theorem headerLine (fit : Presentable a)
    (printed : (Section.header a.siteName a.siteUrl a.analyzedAt).lines = .ok ls)
    (more : List (List Char)) :
    ∃ word rest, (ls ++ more)[3]? = some ('│' :: ' ' :: word ++ ' ' :: rest) ∧ ' ' ∉ word ∧
      (word = a.siteUrl.toList ↔ Literal a.siteUrl.toList) := by
  obtain ⟨out, read⟩ := namePrints ⟨ls, printed⟩
  rw [nameShown] at read
  obtain ⟨styles, first, next, whole, same⟩ := headerRead fit read
  rw [Section.lines, headerLines, panel, marked, headerShown, same] at printed
  cases shown : readPieces (styleName "dim".toList :: styles) (piecesFrom 0 next []
      ((addressPart a.siteUrl a.analyzedAt).closed ++ [])) with
  | error e =>
    rw [shown] at printed
    cases printed
  | ok text =>
    obtain ⟨word, rest, rfl, alone, visible, kept⟩ := addressShown fit shown
    obtain ⟨line, named⟩ := linesOne whole
    obtain ⟨behind, others, split⟩ :=
      linesStart (List.forall_mem_append.mpr ⟨visible,
        List.forall_mem_singleton.mpr (by decide)⟩ : Visible (word ++ [' '])) rest
    have apart : (first ++ ['\n']) ++ (word ++ ' ' :: rest) =
        first ++ '\n' :: ((word ++ [' ']) ++ rest) := by simp
    rw [shown] at printed
    dsimp only [Except.map] at printed
    rw [apart, linesJoin, named, split] at printed
    obtain rfl := Except.ok.inj printed
    refine ⟨word, behind ++ spaces (terminalWidth - 4 - Text.width (word ++ [' '] ++ behind)) ++
      [' ', '│'], ?_, alone, kept⟩
    simp [panelLine, padRight]

theorem headerShows (fit : Presentable a)
    (printed : (Section.header a.siteName a.siteUrl a.analyzedAt).lines = .ok ls)
    (more : List (List Char)) : HeaderShows (ls ++ more) a.siteUrl ↔ Literal a.siteUrl.toList := by
  obtain ⟨word, rest, line, alone, kept⟩ := headerLine fit printed more
  rw [← kept]
  constructor
  · rintro ⟨tail, here⟩
    have texts := Option.some.inj (line.symm.trans here)
    exact wordSame alone fit.spaceless (List.cons.inj (List.cons.inj texts).2).2
  · rintro rfl
    exact ⟨rest, line⟩

theorem addressPrinted (fit : Presentable a) (verbose : Bool) :
    ((∃ ls, Report.lines verbose a = .ok ls ∧ HeaderShows ls a.siteUrl) ↔
      Literal a.siteUrl.toList ∧ (∃ out, shown (nameMarkup a.siteName) = .ok out) ∧
        ∀ part ∈ below verbose a, Prints part) ∧
    (a.Unmarked → (∃ out, shown (nameMarkup a.siteName) = .ok out) ∧
      ∀ part ∈ below verbose a, Prints part) := by
  refine ⟨?_, fun unmarked => ⟨nameUnmarked unmarked.name, belowPrints unmarked verbose⟩⟩
  have parts : sections verbose a =
      .header a.siteName a.siteUrl a.analyzedAt :: below verbose a := rfl
  constructor
  · rintro ⟨ls, printed, shows⟩
    have each := partsPrinted.mp ⟨ls, printed⟩
    rw [parts] at each
    obtain ⟨header, others⟩ := List.forall_mem_cons.mp each
    refine ⟨?_, namePrints header, others⟩
    have read := linesPrinted.mp printed
    rw [parts] at read
    cases read with
    | next here later => exact (headerShows fit here _).mp shows
  · rintro ⟨literal, ⟨out, named⟩, others⟩
    obtain ⟨ls, header⟩ := headerPrints fit literal named
    obtain ⟨more, later⟩ := partsPrinted.mpr others
    refine ⟨ls ++ more, ?_, (headerShows fit header more).mpr literal⟩
    rw [Report.lines, parts]
    exact linesPrinted.mpr (.next header (linesPrinted.mp later))

end

theorem bracketedAddressPrinted :
    let a : Analysis := .ofJudged "https://a.b/[B]" "now" []
    Presentable a ∧ ∃ ls, Report.lines true a = .ok ls ∧ HeaderShows ls a.siteUrl := by
  intro a
  have fit : Presentable a :=
    presentable ⟨"https://a.b/[B]", by decide⟩ (by decide) (by decide +kernel) (by decide) (by decide)
  have literal : Literal "https://a.b/[B]".toList := ⟨by decide, by decide, by decide⟩
  have unmarked : a.Unmarked :=
    ⟨unmarkedText (by decide), by decide, nofun, nofun⟩
  obtain ⟨exactly, rest⟩ := addressPrinted fit true
  exact ⟨fit, exactly.mpr ⟨literal, rest unmarked⟩⟩

theorem closingAddressUnprinted :
    let a : Analysis := .ofJudged "https://a.b/[/b]" "now" []
    Presentable a ∧ a.Unmarked ∧ Report.lines false a =
      .error (.markup (.unmatched ⟨"/b".toList, none⟩ 34)) := by
  intro a
  have fit : Presentable a :=
    presentable ⟨"https://a.b/[/b]", by decide⟩ (by decide) (by decide +kernel) (by decide) (by decide)
  have unmarked : a.Unmarked :=
    ⟨unmarkedText (by decide), by decide, nofun, nofun⟩
  exact ⟨fit, unmarked, by decide +kernel⟩

end Report

end PageAudit
