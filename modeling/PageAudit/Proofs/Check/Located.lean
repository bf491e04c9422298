import PageAudit.Check.Table
import PageAudit.Proofs.Check.Faults
import PageAudit.Proofs.Excerpt
import PageAudit.Proofs.Pattern.Piece
/-!
Where the tags stand that checks find fault with. A tag is found in the whole page and then looked
for line by line, so one that goes over a line end is shown nowhere.
-/
namespace PageAudit.Check

open Pattern Number

inductive Finds (s : Subject) : String → List (List Char) → Prop where
  | untold : Finds s "wcag-001" ((s.findAll imgTag).filter fun img => !imgWithAlt.occursIn img)
  | unsized : Finds s "cwv-002" (s.findAll unsizedImg)
  | blocking : Finds s "js-002" (s.findAll blockingScript)
  | foreign {address : Url.Parts} {found : List Match} (site : Url.parts s.site = .ok address)
      (listed : foreignScripts s address.host? = .ok found)
      (few : ratio ((s.findAll scriptSource).filter nonBlockingMark.occursIn).length found.length ≤
        nearest (4 / 5)) :
      Finds s "httparch-001" (found.map Match.text)

/-- There is evidence on a tag if the tag stands on one line, and then it shows a line that holds
the tag, letter case apart, and none behind a place where the tag starts. -/
structure LocatesTag (markup tag : List Char) (evidence : Option Evidence) : Prop where
  there : tag <:+: markup
  shown : evidence ≠ none ↔ '\n' ∉ tag
  line : ∀ e, evidence = some e → 1 ≤ e.line ∧ ∃ line,
    (Text.lines markup)[e.line - 1]? = some line ∧ Text.holdsLike tag line = true
  early : ∀ e, evidence = some e → ∀ before after, markup = before ++ (tag ++ after) →
    e.line ≤ before.count '\n' + 1

section
variable {s : Subject} {rule : String} {tags : List (List Char)} {markup tag : List Char}
  {context : Int} {wanted : Bool}

theorem splitUnshown (split : '\n' ∈ tag) : excerpt markup (.ofText tag) context = none := by
  refine excerptNone.mpr fun line member => ?_
  rw [ofTextOccurs, Bool.eq_false_iff]
  exact fun holds =>
    Text.splitFree member (Text.markHeld (by decide) (by decide) (by decide) split holds)

theorem wholeHeld (whole : '\n' ∉ tag) (before after : List Char) : ∃ line,
    (Text.lines (before ++ (tag ++ after)))[before.count '\n']? = some line ∧
      (ofText tag).occursIn line = true := by
  obtain ⟨line, found, inside⟩ := Text.linePart whole before after
  exact ⟨line, found, by rw [ofTextOccurs, Text.holdsItself inside]⟩

theorem excerptLocatesTag (there : tag <:+: markup) (context : Int) :
    LocatesTag markup tag (excerpt markup (.ofText tag) context) where
  there := there
  shown := by
    constructor
    · exact fun shown split => shown (splitUnshown split)
    · obtain ⟨before, after, rfl⟩ := there
      intro whole none
      rw [List.append_assoc] at none
      obtain ⟨line, found, occurs⟩ := wholeHeld whole before after
      rw [excerptNone.mp none line (List.mem_of_getElem? found)] at occurs
      cases occurs
  line := by
    intro e found
    obtain ⟨first, line, shown, occurs⟩ := excerptLine found
    rw [ofTextOccurs] at occurs
    exact ⟨first, line, shown, occurs⟩
  early := by
    rintro e found before after rfl
    by_cases split : '\n' ∈ tag
    · rw [splitUnshown split] at found
      cases found
    · obtain ⟨line, shown, occurs⟩ := wholeHeld split before after
      exact excerptFirst found shown occurs

theorem firstExcerpt {f : Option Evidence → Verdict} {v : Verdict}
    (first : tags.head? = some tag) (asked : wanted = true)
    (ended : (do let evidence ← s.excerptOfFirst wanted tags context; return f evidence) = .ok v)
    (kept : ∀ evidence, (f evidence).evidence = evidence) :
    v.evidence = excerpt s.markup (.ofText tag) context := by
  obtain ⟨evidence, shown, same⟩ := bindOk.mp ended
  obtain rfl := Except.ok.inj same
  obtain ⟨more, rfl⟩ := List.head?_eq_some_iff.mp first
  rw [Subject.excerptOfFirst, if_pos asked] at shown
  rw [kept]
  exact (Except.ok.inj shown).symm

theorem findsFilled (first : tags.head? = some tag) : tags.isEmpty = false := by
  obtain ⟨more, rfl⟩ := List.head?_eq_some_iff.mp first
  rfl

theorem findsThere (finds : Finds s rule tags) (member : tag ∈ tags) : tag <:+: s.markup := by
  cases finds with
  | untold => exact (findAllTaken (List.mem_filter.mp member).1).2
  | unsized => exact (findAllTaken member).2
  | blocking => exact (findAllTaken member).2
  | foreign site listed few =>
    obtain ⟨m, kept, rfl⟩ := List.mem_map.mp member
    exact (matchTaken (filterMKept listed kept)).2

theorem firstShown (finds : Finds s rule tags) (first : tags.head? = some tag) :
    ∃ check v context, checks.find? rule = some check ∧ check.run s = .ok v ∧
      v.evidence = excerpt s.markup (.ofText tag) context := by
  have filled := findsFilled first
  cases finds with
  | untold =>
    obtain ⟨v, ended⟩ := failingRun "alt text" (altTextSure s)
    exact ⟨_, v, 1, rfl, ended, firstExcerpt first (by rw [filled]; rfl) (failingEnded ended)
      fun _ => rfl⟩
  | unsized =>
    obtain ⟨v, ended⟩ := failingRun "layout shift" (layoutShiftSure s)
    obtain ⟨above, -, later⟩ := bindOk.mp (failingEnded ended)
    exact ⟨_, v, 1, rfl, ended, firstExcerpt first (by rw [filled]; rfl) later fun _ => rfl⟩
  | blocking =>
    obtain ⟨v, ended⟩ := failingRun "render blocking" (renderBlockingSure s)
    have later := failingEnded ended
    unfold renderBlocking at later
    extract_lets scripts stylesheets at later
    rw [if_neg (by rw [filled]; decide)] at later
    exact ⟨_, v, 2, rfl, ended, firstExcerpt first rfl later fun _ => rfl⟩
  | @foreign address found site listed few =>
    obtain ⟨v, ended⟩ := failingRun "third party scripts" (thirdPartyScriptsEnded s site listed)
    obtain ⟨address', read, later⟩ := bindOk.mp (failingEnded ended)
    -- The site of the page is the one whose sources were listed.
    obtain rfl : address = address' := by
      rw [Subject.address, site] at read
      exact Except.ok.inj read
    rw [listed] at later
    obtain ⟨above, share, later⟩ := bindOk.mp later
    rw [List.isEmpty_map] at filled
    rw [filled] at share
    have held : above = false := by
      rw [(shareCompared share).2]
      exact decide_eq_false (Rat.not_lt.mpr few)
    exact ⟨_, v, 1, rfl, ended, firstExcerpt first (by rw [held]; rfl) later fun _ => rfl⟩

theorem firstTagLocated (finds : Finds s rule tags) (first : tags.head? = some tag) :
    ∃ check v, checks.find? rule = some check ∧ check.run s = .ok v ∧
      LocatesTag s.markup tag v.evidence := by
  obtain ⟨check, v, context, found, ended, shown⟩ := firstShown finds first
  refine ⟨check, v, found, ended, ?_⟩
  rw [shown]
  exact excerptLocatesTag (findsThere finds (List.mem_of_mem_head? first)) context

theorem earlierLineLocated :
    let s : Subject := ⟨"<img alt='' <IMG a>\n<img a>".toList, .empty, "https://a.b/"⟩
    let tag := "<img a>".toList
    Finds s "wcag-001" [tag] ∧ ∃ check v, checks.find? "wcag-001" = some check ∧
      check.run s = .ok v ∧ LocatesTag s.markup tag v.evidence ∧
      v.evidence.map (·.line) = some 1 := by
  intro s tag
  have untold : ((s.findAll imgTag).filter fun img => !imgWithAlt.occursIn img) = [tag] := by
    decide +kernel
  have finds : Finds s "wcag-001" [tag] := untold ▸ .untold
  obtain ⟨check, v, found, ended, located⟩ := firstTagLocated finds rfl
  refine ⟨finds, check, v, found, ended, located, ?_⟩
  obtain rfl := Option.some.inj found
  have shown : (altText s).toOption.map (·.evidence.map (·.line)) = some (some 1) := by
    decide +kernel
  rw [failingEnded ended] at shown
  exact Option.some.inj shown

end

end PageAudit.Check
