import PageAudit.Pattern.Basic
import PageAudit.Proofs.Excerpt
/-!
How much an excerpt shows. The line it tells is the first with a match, however many lines are shown
around it; these end with the text on both sides, and more of them hold what fewer show.
-/
namespace PageAudit

/-- The lines of a text from one number to another, counted from one, joined again. -/
def linesBetween (text : List Char) (first last : Nat) : List Char :=
  ['\n'].intercalate (((Text.lines text).take last).drop (first - 1))

/-- The lines up to so many above a line and below it, as far as there are any, stripped. -/
def surroundings (text : List Char) (line context : Nat) : List Char :=
  Text.trim (linesBetween text (max 1 (line - context))
    (min (Text.lines text).length (line + context)))

structure ShowsFirst (markup : List Char) (p : Pattern) (context : Nat) (e : Evidence) : Prop where
  numbered : 1 ≤ e.line
  occurs : ∃ line, (Text.lines markup)[e.line - 1]? = some line ∧ p.occursIn line = true
  least : ∀ n line, (Text.lines markup)[n]? = some line → p.occursIn line = true → e.line ≤ n + 1
  shown : e.snippet.toList = (surroundings markup e.line context).take 500

section
variable {markup text : List Char} {p : Pattern} {e : Evidence}
  {first first' last last' i line context wider : Nat}

theorem partNested {α : Type} (items : List α) (left : first' ≤ first) (inside : first' ≤ last)
    (right : last ≤ last') : (items.take last).drop first =
      (((items.take last').drop first').take (last - first')).drop (first - first') := by
  rw [List.take_drop, List.take_take, List.drop_drop, Nat.add_sub_cancel' inside,
    Nat.min_eq_left right, Nat.add_sub_cancel' left]

theorem linesNested (text : List Char) (left : first' ≤ first) (inside : first' - 1 ≤ last)
    (right : last ≤ last') : linesBetween text first last <:+: linesBetween text first' last' := by
  unfold linesBetween
  rw [partNested (Text.lines text) (Nat.sub_le_sub_right left 1) inside right]
  exact joinedPart _ _ _

theorem aroundBetween (inside : i < (Text.lines text).length) (context : Nat) :
    linesAround text i context = linesBetween text (max 1 (i + 1 - context))
      (min (Text.lines text).length (i + 1 + context)) := by
  have start : (max 0 ((i : Int) - context)).toNat = max 1 (i + 1 - context) - 1 := by omega
  have stop : (min ((Text.lines text).length : Int) ((i : Int) + context + 1)).toNat =
      min (Text.lines text).length (i + 1 + context) := by omega
  rw [linesAround, sliceForward (Int.le_max_left ..) (by omega), start, stop, linesBetween]

theorem surroundingsNested (inside : line ≤ (Text.lines text).length) (within : context ≤ wider) :
    surroundings text line context <:+: surroundings text line wider :=
  Text.trimInside (linesNested text (by omega) (by omega) (by omega))

theorem excerptShowsFirst (found : excerpt markup p context = some e) :
    ShowsFirst markup p context e := by
  obtain ⟨numbered, line, there, occurs⟩ := excerptLine found
  refine ⟨numbered, ⟨line, there, occurs⟩, fun _ _ => excerptFirst found, ?_⟩
  obtain ⟨i, first, rfl⟩ := Option.map_eq_some_iff.mp found
  obtain ⟨inside, -⟩ := lineFound first
  rw [snippetChars, aroundBetween inside]
  rfl

theorem excerptWidened (found : excerpt markup p context = some e) (wider : Nat) :
    ∃ f, excerpt markup p wider = some f ∧ f.line = e.line := by
  obtain ⟨i, first, rfl⟩ := Option.map_eq_some_iff.mp found
  exact ⟨_, Option.map_eq_some_iff.mpr ⟨i, first, rfl⟩, rfl⟩

theorem excerptsNested (markup : List Char) (p : Pattern) (context : Nat) :
    (excerpt markup p context = none ↔ ∀ line ∈ Text.lines markup, p.occursIn line = false) ∧
    ∀ e, excerpt markup p context = some e → ShowsFirst markup p context e ∧
      ∀ wider, context ≤ wider → ∃ f, excerpt markup p wider = some f ∧ f.line = e.line ∧
        ((surroundings markup f.line wider).length ≤ 500 →
          e.snippet.toList <:+: f.snippet.toList) := by
  refine ⟨excerptNone, fun e found => ⟨excerptShowsFirst found, fun wider within => ?_⟩⟩
  obtain ⟨f, again, same⟩ := excerptWidened found wider
  refine ⟨f, again, same, fun uncut => ?_⟩
  have narrow := excerptShowsFirst found
  have wide := excerptShowsFirst again
  obtain ⟨line, there, -⟩ := narrow.occurs
  obtain ⟨inside, -⟩ := List.getElem?_eq_some_iff.mp there
  have nested : surroundings markup e.line context <:+: surroundings markup f.line wider := by
    rw [same]
    exact surroundingsNested (by omega) within
  rw [narrow.shown, wide.shown, List.take_of_length_le uncut]
  exact (List.take_prefix _ _).isInfix.trans nested

theorem blankContextWidened :
    let markup := "\n  x\n<IMG>\n \n\nz".toList
    let p := Pattern.ofText "<img>".toList
    let e : Evidence := ⟨"x\n<IMG>", 3⟩
    let f : Evidence := ⟨"x\n<IMG>\n \n\nz", 3⟩
    excerpt markup p 1 = some e ∧ ShowsFirst markup p 1 e ∧ excerpt markup p 3 = some f ∧
      e.snippet.toList <:+: f.snippet.toList := by
  intro markup p e f
  have narrow : excerpt markup p 1 = some e := by decide +kernel
  have wide : excerpt markup p 3 = some f := by decide +kernel
  obtain ⟨shows, nested⟩ := (excerptsNested markup p 1).2 e narrow
  obtain ⟨g, again, -, inside⟩ := nested 3 (by decide)
  obtain rfl : f = g := Option.some.inj (wide.symm.trans again)
  exact ⟨narrow, shows, wide, inside (by decide +kernel)⟩

end

end PageAudit
