import PageAudit.Check.Basic
import PageAudit.Proofs.Pattern.Visible
/-!
What an excerpt shows. It is a part of the markup, starts with a character that is seen, and belongs
to a line that is there, whatever stands around the match.
-/
namespace PageAudit

structure Locates (markup : List Char) (e : Evidence) : Prop where
  filled : e.snippet ≠ ""
  part : e.snippet.toList <:+: markup
  short : e.snippet.length ≤ 500
  start : ∀ c, e.snippet.toList.head? = some c → Text.isBlank c = false
  line : 1 ≤ e.line ∧ e.line ≤ markup.count '\n' + 1

section
variable {α : Type} {items : List α} {start stop : Int}

theorem sliceForward (first : 0 ≤ start) (last : 0 ≤ stop) :
    slice items start stop = (items.take stop.toNat).drop start.toNat := by
  simp [slice, Int.not_lt.mpr first, Int.not_lt.mpr last]

theorem sliceKeeps {i : Nat} (inside : i < items.length) (first : 0 ≤ start) (after : start ≤ i)
    (before : i < stop) : items[i] ∈ slice items start stop := by
  rw [sliceForward first (by omega)]
  have taken : i < (items.take stop.toNat).length := by
    rw [List.length_take]
    omega
  have kept : (items.take stop.toNat)[i] = items[i] := List.getElem_take ..
  rw [← kept, List.mem_iff_getElem?]
  refine ⟨i - start.toNat, ?_⟩
  rw [List.getElem?_drop, Nat.add_sub_cancel' (by omega), List.getElem?_eq_getElem taken]

end

section
variable {markup : List Char} {context : Int} {i : Nat}

theorem lineFound {lines : List (List Char)} {p : Pattern} (found : lineOf? lines p = some i) :
    ∃ inside : i < lines.length, p.occursIn lines[i] = true :=
  List.findIdx?_eq_some_iff_getElem.mp found |>.imp fun _ first => first.1

theorem excerptNone {p : Pattern} : excerpt markup p context = none ↔
    ∀ line ∈ Text.lines markup, p.occursIn line = false := by
  rw [excerpt, Option.map_eq_none_iff, lineOf?, List.findIdx?_eq_none_iff]

theorem excerptLine {p : Pattern} {e : Evidence} (found : excerpt markup p context = some e) :
    1 ≤ e.line ∧ ∃ line, (Text.lines markup)[e.line - 1]? = some line ∧
      p.occursIn line = true := by
  obtain ⟨i, first, rfl⟩ := Option.map_eq_some_iff.mp found
  obtain ⟨inside, occurs⟩ := lineFound first
  exact ⟨Nat.succ_pos i, _, List.getElem?_eq_getElem inside, occurs⟩

theorem excerptFirst {p : Pattern} {e : Evidence} (found : excerpt markup p context = some e)
    {line : List Char} (there : (Text.lines markup)[i]? = some line)
    (occurs : p.occursIn line = true) : e.line ≤ i + 1 := by
  obtain ⟨j, first, rfl⟩ := Option.map_eq_some_iff.mp found
  obtain ⟨_, _, earlier⟩ := List.findIdx?_eq_some_iff_getElem.mp first
  refine Nat.succ_le_succ (Nat.le_of_not_lt fun before => ?_)
  obtain ⟨inside, rfl⟩ := List.getElem?_eq_some_iff.mp there
  exact earlier i before occurs

def linesAround (markup : List Char) (i : Nat) (context : Int) : List Char :=
  ['\n'].intercalate (slice (Text.lines markup) (max 0 ((i : Int) - context))
    (min (Text.lines markup).length ((i : Int) + context + 1)))

theorem joinedPart (lines : List (List Char)) (first last : Nat) :
    ['\n'].intercalate ((lines.take last).drop first) <:+: ['\n'].intercalate lines :=
  (Text.dropJoined ['\n'] (lines.take last) first).isInfix.trans
    (Text.takeJoined ['\n'] lines last).isInfix

theorem aroundPart (forward : 0 ≤ context) : linesAround markup i context <:+: markup := by
  have part := joinedPart (Text.lines markup) (max 0 ((i : Int) - context)).toNat
    (min ((Text.lines markup).length : Int) ((i : Int) + context + 1)).toNat
  rw [Text.linesJoined] at part
  rwa [linesAround, sliceForward (Int.le_max_left ..) (by omega)]

theorem aroundKeeps (inside : i < (Text.lines markup).length) (forward : 0 ≤ context) {c : Char}
    (member : c ∈ (Text.lines markup)[i]) : c ∈ linesAround markup i context := by
  have kept : (Text.lines markup)[i] ∈ slice (Text.lines markup) (max 0 ((i : Int) - context))
      (min (Text.lines markup).length ((i : Int) + context + 1)) :=
    sliceKeeps inside (by omega) (by omega) (by omega)
  exact (Text.itemJoined ['\n'] kept).subset member

theorem snippetChars : (snippetAt (Text.lines markup) i context).toList =
    (Text.trim (linesAround markup i context)).take maxSnippet := by
  rw [snippetAt, String.toList_ofList]
  rfl

theorem excerptLocates {p : Pattern} {e : Evidence} (seen : p.visible = true)
    (forward : 0 ≤ context) (found : excerpt markup p context = some e) : Locates markup e := by
  obtain ⟨i, first, rfl⟩ := Option.map_eq_some_iff.mp found
  obtain ⟨inside, occurs⟩ := lineFound first
  obtain ⟨m, matched⟩ := Option.isSome_iff_exists.mp occurs
  obtain ⟨takes, within⟩ := Pattern.findTaken matched
  obtain ⟨c, member, filled⟩ := Pattern.visibleTaken seen takes
  -- A match has a character that is seen, and neither the lines around nor the trimming lose it.
  have kept := Text.trimKeeps (aroundKeeps inside forward (within.subset member)) filled
  obtain ⟨d, rest, trimmed⟩ := List.exists_cons_of_ne_nil (List.ne_nil_of_mem kept)
  have chars : (snippetAt (Text.lines markup) i context).toList = d :: rest.take 499 := by
    rw [snippetChars, trimmed]
    rfl
  constructor
  case filled =>
    intro empty
    have none := congrArg String.toList empty
    rw [chars] at none
    cases none
  case part =>
    rw [snippetChars]
    exact (List.take_prefix _ _).isInfix.trans ((Text.trimPart _).trans (aroundPart forward))
  case short =>
    rw [← String.length_toList, snippetChars, List.length_take]
    exact Nat.min_le_left ..
  case start =>
    intro c first
    rw [chars] at first
    obtain rfl := Option.some.inj first
    exact Text.trimStart trimmed
  case line =>
    rw [← Text.linesCount]
    exact ⟨Nat.succ_pos i, inside⟩

end

end PageAudit
