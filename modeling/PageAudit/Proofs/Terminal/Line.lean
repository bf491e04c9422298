import PageAudit.Proofs.Terminal.Emoji
import PageAudit.Terminal.Line
/-!
Lines on a terminal. A newline ends one line, and text without control characters stays as it is.
-/
namespace PageAudit

namespace Text

theorem linesJoin (first rest : List Char) :
    lines (first ++ '\n' :: rest) = lines first ++ lines rest := by
  induction first with
  | nil =>
    rw [List.nil_append, lines, List.splitOn_cons_eq_if_modifyHead, if_pos (beq_self_eq_true _)]
    rfl
  | cons c first ih =>
    unfold lines at ih ⊢
    rw [List.cons_append, List.splitOn_cons_eq_if_modifyHead, List.splitOn_cons_eq_if_modifyHead, ih]
    split
    · rfl
    · cases parts : first.splitOn '\n' with
      | nil => exact absurd parts (List.splitOn_ne_nil _ _)
      | cons line more => rfl

theorem linesAfter {first : List Char} (whole : '\n' ∉ first) (rest : List Char) :
    ∃ line more, lines rest = line :: more ∧ lines (first ++ rest) = (first ++ line) :: more := by
  induction first with
  | nil =>
    cases parts : rest.splitOn '\n' with
    | nil => exact absurd parts (List.splitOn_ne_nil _ _)
    | cons line more => exact ⟨line, more, parts, parts⟩
  | cons c first ih =>
    obtain ⟨line, more, parts, later⟩ := ih (List.not_mem_of_not_mem_cons whole)
    have other : c ≠ '\n' := (List.ne_of_not_mem_cons whole).symm
    refine ⟨line, more, parts, ?_⟩
    unfold lines at later ⊢
    rw [List.cons_append, List.splitOn_cons_eq_if_modifyHead, if_neg (by simpa using other), later]
    rfl

theorem linesWhole {text : List Char} (whole : '\n' ∉ text) : lines text = [text] := by
  obtain ⟨line, more, empty, split⟩ := linesAfter whole []
  obtain ⟨rfl, rfl⟩ := List.cons.inj (show [[]] = line :: more from empty)
  rwa [List.append_nil] at split

end Text

namespace Terminal

def Visible (text : List Char) : Prop := ∀ c ∈ text, 32 ≤ c.toNat

section
variable {text : List Char}

theorem visibleTame (tame : ∀ c ∈ text, isTame c = true) : Visible text := by
  intro c member
  have kind := tame c member
  simp only [isTame, Bool.or_eq_true, Bool.and_eq_true, decide_eq_true_eq] at kind
  omega

theorem Visible.free (visible : Visible text) {c : Char} (control : c.toNat < 32) : c ∉ text :=
  fun member => absurd (visible c member) (Nat.not_le.mpr control)

theorem Visible.kept (visible : Visible text) : text.filter (!isDropped ·) = text := by
  refine List.filter_eq_self.mpr fun c member => ?_
  have low := visible c member
  simp only [isDropped, Bool.not_eq_true', Bool.or_eq_false_iff, beq_eq_false_iff_ne]
  omega

theorem linesJoin (first rest : List Char) :
    lines (first ++ '\n' :: rest) = lines first ++ lines rest := by
  unfold lines
  rw [List.filter_append, List.filter_cons_of_pos (by decide), Text.linesJoin, List.map_append]

theorem tabless (visible : Visible text) (cell : Nat) (rest : List Char) :
    ∃ next, withoutTabs cell (text ++ rest) = text ++ withoutTabs next rest := by
  induction text generalizing cell with
  | nil => exact ⟨cell, rfl⟩
  | cons c text ih =>
    obtain ⟨first, others⟩ := List.forall_mem_cons.mp visible
    obtain ⟨next, same⟩ := ih others (cell + Text.cells c)
    have other : c ≠ '\t' := by
      rintro rfl
      exact absurd first (by decide)
    refine ⟨next, ?_⟩
    rw [List.cons_append, withoutTabs, if_neg (by simpa using other), same]
    rfl

theorem linesStart (visible : Visible text) (rest : List Char) :
    ∃ line more, lines (text ++ rest) = (text ++ line) :: more := by
  obtain ⟨line, more, -, split⟩ :=
    Text.linesAfter (visible.free (by decide)) (rest.filter (!isDropped ·))
  obtain ⟨next, same⟩ := tabless visible 0 line
  refine ⟨withoutTabs next line, more.map (withoutTabs 0), ?_⟩
  rw [lines, List.filter_append, visible.kept, split, List.map_cons, same]

theorem linesVisible (visible : Visible text) : lines text = [text] := by
  obtain ⟨next, same⟩ := tabless visible 0 []
  rw [List.append_nil] at same
  rw [lines, visible.kept, Text.linesWhole (visible.free (by decide)), List.map_singleton, same,
    withoutTabs, List.append_nil]

theorem linesOne (whole : '\n' ∉ text) : ∃ line, lines text = [line] := by
  have kept : '\n' ∉ text.filter (!isDropped ·) := fun member => whole (List.mem_filter.mp member).1
  exact ⟨_, by rw [lines, Text.linesWhole kept, List.map_singleton]⟩

end

end Terminal

end PageAudit
