import PageAudit.Check.Table
import PageAudit.Proofs.Excerpt
import PageAudit.Proofs.Pattern.Leftmost
/-!
Pages searched line by line. For a pattern that stays on one line this finds what a search of the
whole page finds: there is an excerpt exactly if the page holds a match, and its line is the one on
which the first match starts.
-/
namespace PageAudit.Check

open Pattern

structure LocatesFirst (markup : List Char) (p : Pattern) (evidence : Option Evidence) : Prop where
  missing : evidence = none ↔ p.occursIn markup = false
  line : ∀ e, evidence = some e → ∃ passed rest t, Leftmost p ' ' markup passed rest t ∧
    p.find? markup = some (t.found rest) ∧ e.line = passed.count '\n' + 1

section
variable {p : Pattern} {markup word : List Char}

theorem lineSearched (single : p.linewise = true) :
    (∃ line ∈ Text.lines markup, p.occursIn line = true) ↔ p.occursIn markup = true := by
  rw [occursPlaces]
  constructor
  · rintro ⟨line, member, occurs⟩
    obtain ⟨n, found⟩ := List.mem_iff_getElem?.mp member
    obtain ⟨passed, rest, u, whole, -, reads⟩ := (lineOccurs single).mp ⟨line, found, occurs⟩
    exact ⟨passed, rest, whole, u, reads⟩
  · rintro ⟨passed, rest, whole, u, reads⟩
    obtain ⟨line, found, occurs⟩ := (lineOccurs single).mpr ⟨passed, rest, u, whole, rfl, reads⟩
    exact ⟨line, List.mem_of_getElem? found, occurs⟩

/- The shown line is the first one with a match, and the first match of the page is on no line
before it and on none behind it. -/
theorem excerptLocatesFirst (single : p.linewise = true) (context : Int) :
    LocatesFirst markup p (excerpt markup p context) where
  missing := by
    rw [excerptNone, ← Bool.not_eq_true (p.occursIn markup), ← lineSearched single]
    simp only [not_exists, not_and, Bool.not_eq_true]
  line := by
    intro e found
    obtain ⟨one, line, shown, occurs⟩ := excerptLine found
    obtain ⟨passed', rest', u, whole', count, reads⟩ := (lineOccurs single).mp ⟨line, shown, occurs⟩
    obtain ⟨passed, rest, t, leftmost⟩ :=
      occursLeftmost.mp (occursPlaces.mpr ⟨passed', rest', whole', u, reads⟩)
    refine ⟨passed, rest, t, leftmost, leftmostFound.mpr ⟨passed, rest, t, leftmost, rfl⟩, ?_⟩
    have behind : passed.count '\n' ≤ passed'.count '\n' :=
      (leftmost.early whole' reads).sublist.count_le '\n'
    obtain ⟨first, there, holds⟩ := (lineOccurs single).mpr
      ⟨passed, rest, t, leftmost.whole, rfl, runReads leftmost.matched⟩
    have before := excerptFirst found there holds
    omega

theorem consoleLocatesFirst (s : Subject) :
    ((consoleStatements s).passed = false ↔ (consoleStatements s).evidence ≠ none) ∧
      LocatesFirst s.markup consoleCall (consoleStatements s).evidence := by
  have located : LocatesFirst s.markup consoleCall (excerpt s.markup consoleCall 2) :=
    excerptLocatesFirst (by decide) 2
  have shown : (consoleStatements s).evidence = excerpt s.markup consoleCall 2 := by
    change (if s.has consoleCall then _ else _) = _
    split
    · rfl
    · rename_i absent
      exact (located.missing.mpr (Bool.eq_false_iff.mpr absent)).symm
  have failed : (consoleStatements s).passed = false ↔ s.has consoleCall = true := by
    change (!s.has consoleCall) = false ↔ _
    rw [Bool.not_eq_false']
  rw [shown, failed]
  exact ⟨by rw [Ne, located.missing, Bool.not_eq_false]; rfl, located⟩

theorem wordsLocated (plain : '\n' ∉ word) (markup : List Char) (context : Int) (s : Subject) :
    LocatesFirst markup (.ofText word) (excerpt markup (.ofText word) context) ∧
      ∃ check v, checks.find? "eslint-002" = some check ∧ check.run s = .ok v ∧
        (v.passed = false ↔ v.evidence ≠ none) ∧
        LocatesFirst s.markup consoleCall v.evidence :=
  ⟨excerptLocatesFirst (textLinewise plain) context, _, consoleStatements s, rfl, rfl,
    consoleLocatesFirst s⟩

theorem markedWordLocated :
    let word := "k.()".toList
    let markup := "Ko()\n x \u212A.() k.()".toList
    let s : Subject := ⟨"console\n.log(\nCONSOLE.Log(1)".toList, .empty, "https://a.b/"⟩
    '\n' ∉ word ∧ (excerpt markup (.ofText word) 0).map (·.line) = some 2 ∧
      LocatesFirst markup (.ofText word) (excerpt markup (.ofText word) 0) ∧
      ∃ check v, checks.find? "eslint-002" = some check ∧ check.run s = .ok v ∧
        v.evidence.map (·.line) = some 3 ∧ LocatesFirst s.markup consoleCall v.evidence := by
  intro word markup s
  have plain : '\n' ∉ word := by decide
  obtain ⟨located, check, v, found, ended, -, first⟩ := wordsLocated plain markup 0 s
  refine ⟨plain, by decide +kernel, located, check, v, found, ended, ?_, first⟩
  obtain rfl := Option.some.inj found
  obtain rfl := Except.ok.inj ended
  decide +kernel

end

end PageAudit.Check
