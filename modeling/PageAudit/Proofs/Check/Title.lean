import PageAudit.Proofs.Check.Linewise
/-!
The title of a page. The first title that is closed again before the next tag is the one that is
measured, and where it fails its line is shown, also where it goes on over several lines.
-/
namespace PageAudit.Check

open Pattern

def titled (before text after : List Char) : List Char :=
  before ++ ("<title>".toList ++ (text ++ ("</title>".toList ++ after)))

structure TitleIn (page opening text closing rest : List Char) : Prop where
  whole : page = opening ++ (text ++ (closing ++ rest))
  opens : opening.map Text.caseKey = "<title>".toList.map Text.caseKey
  filled : text ≠ []
  plain : '<' ∉ text
  closes : closing.map Text.caseKey = "</title>".toList.map Text.caseKey

section
variable {before text after page opening closing rest : List Char} {t u : Trail}

theorem titleReads : titleElement.Reads t page u ↔ ∃ opening text closing rest,
    TitleIn page opening text closing rest ∧
      u = ((t.over opening).grouped text (closing ++ rest)).over closing := by
  constructor
  · intro reads
    obtain ⟨opening, _, rfl, opens, reads⟩ := (lettersRead _).mp reads
    obtain ⟨text, _, rfl, filled, all, reads⟩ := someRead.mp reads
    obtain ⟨closing, rest, rfl, closes, rfl⟩ := (lettersRead _).mp reads
    exact ⟨opening, text, closing, rest, ⟨rfl, opens, filled, exceptAll.mp all, closes⟩, rfl⟩
  · rintro ⟨opening, text, closing, rest, ⟨rfl, opens, filled, plain, closes⟩, rfl⟩
    exact (lettersRead _).mpr ⟨opening, _, rfl, opens, someRead.mpr ⟨text, _, rfl, filled,
      exceptAll.mpr plain, (lettersRead _).mpr ⟨closing, rest, rfl, closes, rfl⟩⟩⟩

theorem titleGroup (t : Trail) (opening text closing rest : List Char) :
    (((t.over opening).grouped text (closing ++ rest)).over closing).group = text := by
  rw [(overGroup _ closing).2.2, groupedRead]

theorem titleAlike {opening' text' closing' rest' : List Char}
    (found : TitleIn page opening text closing rest)
    (again : TitleIn page opening' text' closing' rest') : text = text' := by
  have lengths := keysLength (found.opens.trans again.opens.symm)
  obtain ⟨more, rfl⟩ := Text.markRead (by decide) (by decide) (c := '<') (by decide) found.closes
  obtain ⟨more', rfl⟩ := Text.markRead (by decide) (by decide) (c := '<') (by decide) again.closes
  obtain ⟨-, same⟩ := List.append_inj (found.whole.symm.trans again.whole) lengths
  exact Text.markAlike found.plain again.plain same

variable (free : Text.holdsLike "<title>".toList before = false)
include free

theorem titleFound (filled : text ≠ []) (plain : '<' ∉ text) (after : List Char) :
    ∃ m, titleElement.find? (titled before text after) = some m ∧ m.group = text := by
  have here : TitleIn ("<title>".toList ++ (text ++ ("</title>".toList ++ after))) "<title>".toList
    text "</title>".toList after := ⟨rfl, rfl, filled, plain, rfl⟩
  obtain ⟨t, leftmost⟩ : ∃ t, Leftmost titleElement ' ' (titled before text after) before
      ("<title>".toList ++ (text ++ ("</title>".toList ++ after))) t := by
    refine wordLeftmost (by decide) free (fun reads => ?_) (titleReads.mpr ⟨_, _, _, _, here, rfl⟩)
    obtain ⟨opening, text, closing, rest, found, -⟩ := titleReads.mp reads
    exact ⟨opening, _, found.whole, found.opens⟩
  obtain ⟨opening, text', closing, rest, found, same⟩ := titleReads.mp (runReads leftmost.matched)
  refine ⟨_, leftmostFound.mpr ⟨_, _, t, leftmost, rfl⟩, ?_⟩
  change t.group = text
  rw [same, titleGroup]
  exact titleAlike found here

theorem titleLine (text after : List Char) :
    ∃ e, excerpt (titled before text after) (word "<title>") 1 = some e ∧
      e.line = before.count '\n' + 1 := by
  have located : LocatesFirst (titled before text after) (word "<title>")
      (excerpt (titled before text after) (word "<title>") 1) :=
    excerptLocatesFirst (by decide) 1
  obtain ⟨t, leftmost⟩ : ∃ t, Leftmost (word "<title>") ' ' (titled before text after) before
      ("<title>".toList ++ (text ++ ("</title>".toList ++ after))) t := by
    refine wordLeftmost (by decide) free (fun reads => ?_) ((lettersRead _).mpr ⟨_, _, rfl, rfl, rfl⟩)
    obtain ⟨read, later, whole, keys, -⟩ := (lettersRead _).mp reads
    exact ⟨read, later, whole, keys⟩
  cases shown : excerpt (titled before text after) (word "<title>") 1 with
  | none =>
    have there := occursLeftmost.mpr ⟨_, _, _, leftmost⟩
    rw [located.missing.mp shown] at there
    cases there
  | some e =>
    obtain ⟨passed, rest, t', again, -, line⟩ := located.line e shown
    exact ⟨e, rfl, leftmost.alike again ▸ line⟩

theorem titleMeasured (filled : text ≠ []) (plain : '<' ∉ text) (after : List Char)
    (headers : Http.Headers) (site : String) :
    let s : Subject := ⟨titled before text after, headers, site⟩
    let shown := Text.trim text
    ∃ check v, checks.find? "seo-001" = some check ∧ check.run s = .ok v ∧
      (v.passed = true ↔ 10 ≤ shown.length ∧ shown.length ≤ 60) ∧
      (shown ≠ [] → v.details =
        s!"Title \"{String.ofList shown}\" ({shown.length} chars). Optimal: 50-60 chars.") ∧
      (v.passed = false → ∃ e, v.evidence = some e ∧ e.line = before.count '\n' + 1) := by
  intro s shown
  obtain ⟨m, found, group⟩ := titleFound free filled plain after
  obtain ⟨e, located, line⟩ := titleLine free text after
  have element : s.find? titleElement = some m := found
  refine ⟨_, title s, rfl, rfl, ?_⟩
  simp only [title, Verdict.located, element, groupText, group]
  refine ⟨by simp only [Bool.and_eq_true, decide_eq_true_eq, shown], fun some => ?_,
    fun failed => ?_⟩
  · rw [if_neg (by simpa using some)]
  · rw [if_neg (by simp [failed])]
    exact ⟨e, located, line⟩

end

theorem shortTitleMeasured :
    let before := "<head>\n<title \n<titLe".toList
    let text := "\n\u2003Four >\u0085\n".toList
    let s : Subject := ⟨titled before text "<title>a</title>".toList, .empty, "https://a.b/"⟩
    Text.holdsLike "<title>".toList before = false ∧ text ≠ [] ∧ '<' ∉ text ∧
      ∃ check v, checks.find? "seo-001" = some check ∧ check.run s = .ok v ∧
        v.passed = false ∧ v.details = "Title \"Four >\" (6 chars). Optimal: 50-60 chars." ∧
        ∃ e, v.evidence = some e ∧ e.line = 3 := by
  intro before text s
  have free : Text.holdsLike "<title>".toList before = false := by decide +kernel
  have filled : text ≠ [] := by decide
  have plain : '<' ∉ text := by decide
  have shown : Text.trim text = "Four >".toList := by decide +kernel
  obtain ⟨check, v, found, ended, passed, details, located⟩ :=
    titleMeasured free filled plain "<title>a</title>".toList .empty "https://a.b/"
  rw [shown] at passed details
  have failed : v.passed = false := by
    rw [Bool.eq_false_iff, Ne, passed]
    decide
  exact ⟨free, filled, plain, check, v, found, ended, failed,
    (details (by decide)).trans (by decide +kernel), located failed⟩

end PageAudit.Check
