import Mathlib.Logic.Basic
import PageAudit.Proofs.Failure
import PageAudit.Proofs.Text.Line
import PageAudit.Audit
/-!
What it takes for the address of a site to be accepted, and what is known of it then.
-/
namespace PageAudit

structure OnWeb (site : String) (parts : Url.Parts) : Prop where
  read : Url.parts site = .ok parts
  scheme : parts.scheme = "http".toList ∨ parts.scheme = "https".toList
  host : parts.host? ≠ none

theorem siteAccepted {given : Option String} {site : String} :
    validateSite given = .ok site ↔
      site = Text.trimmed (given.getD "") ∧ site ≠ "" ∧ ∃ parts, OnWeb site parts := by
  unfold validateSite
  simp only [String.isEmpty_iff, Option.isNone_iff_eq_none, Bool.and_eq_true, bne_iff_ne]
  constructor
  · intro accepted
    split at accepted
    · cases accepted
    · rename_i filled
      split at accepted
      · cases accepted
      · rename_i parts read
        split at accepted
        · cases accepted
        · rename_i scheme
          split at accepted
          · cases accepted
          · rename_i host
            obtain rfl := Except.ok.inj accepted
            refine ⟨rfl, filled, parts, read, ?_, host⟩
            simpa only [ne_eq, not_and_or, not_not] using scheme
  · rintro ⟨rfl, filled, parts, read, scheme, host⟩
    have usual : ¬(parts.scheme ≠ "http".toList ∧ parts.scheme ≠ "https".toList) := by
      simpa only [ne_eq, not_and_or, not_not] using scheme
    rw [if_neg filled, read]
    simp only [if_neg usual, if_neg host]

theorem acceptedAgain {given : Option String} {site : String}
    (accepted : validateSite given = .ok site) : validateSite (some site) = .ok site := by
  obtain ⟨rfl, filled, onWeb⟩ := siteAccepted.mp accepted
  exact siteAccepted.mpr ⟨(Text.trimmedTwice _).symm, filled, onWeb⟩

def Url.counted (text : List Char) : List Char :=
  (text.dropWhile fun c => c.toNat ≤ 32).filter fun c => !(c == '\t' || c == '\n' || c == '\r')

theorem Url.partsScheme {base text : List Char} {parts : Url.Parts}
    (read : Url.Parts.read base text = .ok parts) :
    parts.scheme = ((Url.scheme? (Url.counted text)).getD (base, Url.counted text)).1 := by
  unfold Url.Parts.read at read
  obtain ⟨-, -, ended⟩ := bindOk.mp read
  cases ended
  rfl

theorem Url.schemeStarts {c : Char} {rest scheme more : List Char}
    (found : Url.scheme? (c :: rest) = some (scheme, more)) : scheme.head? = some c.toLower := by
  unfold Url.scheme? Url.cut at found
  cases colon : c != ':' with
  | false => simp [colon] at found
  | true =>
    simp only [List.takeWhile_cons, colon, if_true, Option.ite_none_right_eq_some,
      Option.some.injEq, Prod.mk.injEq] at found
    obtain ⟨-, rfl, -⟩ := found
    rfl

theorem Url.countedStarts {c : Char} (visible : 32 < c.toNat) (rest : List Char) :
    ∃ tail, Url.counted (c :: rest) = c :: tail := by
  have lasting : (!(c == '\t' || c == '\n' || c == '\r')) = true := by
    simp only [Bool.not_eq_true', Bool.or_eq_false_iff, beq_eq_false_iff_ne]
    refine ⟨⟨?_, ?_⟩, ?_⟩ <;> rintro rfl <;> exact absurd visible (by decide)
  rw [Url.counted, List.dropWhile_cons_of_neg (by simpa using visible), List.filter_cons,
    if_pos lasting]
  exact ⟨_, rfl⟩

theorem webNamed {site : String} {parts : Url.Parts} (onWeb : OnWeb site parts) :
    ∃ rest, Url.scheme? (Url.counted site.toList) = some (parts.scheme, rest) := by
  have scheme : parts.scheme = _ := Url.partsScheme onWeb.read
  cases found : Url.scheme? (Url.counted site.toList) with
  | none =>
    rw [found] at scheme
    rcases onWeb.scheme with web | web <;> cases scheme.symm.trans web
  | some pair =>
    rw [found] at scheme
    exact ⟨pair.2, by rw [scheme]; rfl⟩

theorem acceptedStarts {url site start : String} {c : Char} {more : List Char}
    (accepted : validateSite (some url) = .ok site) (starts : Text.startsWith url start = true)
    (first : start.toList = c :: more) (visible : 32 < c.toNat)
    (filled : Text.isBlank c = false) : c.toLower = 'h' := by
  obtain ⟨trimmed, -, parts, onWeb⟩ := siteAccepted.mp accepted
  obtain ⟨rest, whole⟩ := List.isPrefixOf_iff_prefix.mp starts
  rw [first, List.cons_append] at whole
  have kept : site.toList = c :: Text.trimEnd (more ++ rest) := by
    rw [trimmed, Option.getD_some, Text.trimmed, String.toList_ofList, ← whole,
      Text.trimFilled filled]
    exact Text.trimEndKept filled [] (more ++ rest)
  obtain ⟨after, found⟩ := webNamed onWeb
  obtain ⟨tail, counted⟩ := Url.countedStarts visible (Text.trimEnd (more ++ rest))
  rw [kept, counted] at found
  have head : parts.scheme.head? = some c.toLower := Url.schemeStarts found
  rcases onWeb.scheme with named | named
  all_goals
    rw [named] at head
    exact (Option.some.inj head).symm

def NamesWeb (url : String) : Prop :=
  Text.startsWith url "http://" = true ∨ Text.startsWith url "https://" = true

theorem normalizedNames {url : String} (names : NamesWeb (Text.trimmed url)) :
    normalizeUrl url = Text.trimmed url := by
  unfold normalizeUrl
  exact if_pos (Bool.or_eq_true_iff.mpr names)

theorem normalizedWeb {url : String} (web : NamesWeb url) :
    normalizeUrl url = Text.trimmed url := by
  refine normalizedNames (web.imp ?_ ?_)
  · exact Text.trimmedStarts (c := 'h') (d := '/') "ttp:/".toList rfl rfl rfl
  · exact Text.trimmedStarts (c := 'h') (d := '/') "ttps:/".toList rfl rfl rfl

theorem acceptedNormalized {url site : String} (web : NamesWeb url)
    (accepted : validateSite (some url) = .ok site) :
    validateSite (some (normalizeUrl url)) = .ok site := by
  have trimmed : site = Text.trimmed url := (siteAccepted.mp accepted).1
  rw [normalizedWeb web, ← trimmed]
  exact acceptedAgain accepted

end PageAudit
