import PageAudit.Check.Table
import PageAudit.Proofs.Check.Faults
import PageAudit.Proofs.Check.Passing
import PageAudit.Proofs.Number.Share
import PageAudit.Proofs.Text.Parted
/-!
Checks that weigh one count against another. Each tells what it counted, and lets a page pass as
the counts themselves compare, ties included, although it compares rounded parts and quotients.
-/
namespace PageAudit.Check

open Pattern Number

inductive Scale where
  | labels
  | sizes
  | scripts
  | spacing
  | focus
  | loading
  deriving DecidableEq, Repr

namespace Scale

def rule : Scale → String
  | labels => "a11y-002"
  | sizes => "cwv-002"
  | scripts => "httparch-001"
  | spacing => "carbon-001"
  | focus => "wcag-003"
  | loading => "cwv-001"

/-- What the details of a verdict say behind each count. -/
def words : Scale → List String
  | labels => [" inputs found, ", " with associated labels "]
  | sizes => ["/", " images have width/height attributes ("]
  | scripts => [" third-party scripts, ", " loaded async/defer "]
  | spacing => [" spacing declarations, ", " not on 8px scale"]
  | focus => [" interactive elements, ", " with tabindex, ", " with tabindex=-1"]
  | loading => ["/", " images lazy-loaded, ", " deferred scripts, ", " async scripts"]

/-- The details of the verdict tell these counts, and nothing before them. -/
def Told (scale : Scale) (v : Verdict) (counts : List Nat) : Prop :=
  counts.length = scale.words.length ∧ Text.telling (counts.zip scale.words) <+: v.details.toList

instance {scale : Scale} {v : Verdict} {counts : List Nat} : Decidable (scale.Told v counts) := by
  unfold Told
  infer_instance

/-- The counts, in the order in which they are told, compare as it takes to pass. -/
def Passes : Scale → List Nat → Prop
  | labels, [inputs, labelled] => inputs = 0 ∨ 4 * inputs ≤ 5 * labelled
  | sizes, [sized, images] => images = 0 ∨ 4 * images < 5 * sized
  | scripts, [foreign, free] => foreign = 0 ∨ 4 * foreign < 5 * free
  | spacing, [declared, irregular] => 10 * irregular < 3 * declared
  | focus, [interactive, indexed, removed] => removed = 0 ∨ interactive < 2 * indexed
  | loading, [waiting, images, deferred, asynchronous] =>
    (images < 5 ∨ images < 2 * waiting) ∧ 0 < deferred + asynchronous
  | _, _ => False

def Weighs (scale : Scale) (v : Verdict) : Prop :=
  ∃ counts, scale.Told v counts ∧
    ((∀ n ∈ counts, n < 2 ^ 40) → (v.passed = true ↔ scale.Passes counts))

end Scale

open Scale

section
variable {s : Subject} {v : Verdict} {scale : Scale}

theorem toldAlike {counts others : List Nat} (told : scale.Told v counts)
    (again : scale.Told v others) : others = counts := by
  have ends : ∀ w ∈ scale.words, w.toList.head?.any (!·.isDigit) = true := by
    cases scale <;> decide
  obtain ⟨whole, rest, told⟩ := told
  obtain ⟨whole', rest', again⟩ := again
  exact Text.countsAlike ends whole' whole (again.trans told.symm)

/- A share of nothing is not taken, so it only has to be above the bound where there is one. -/
theorem shareWeighed (num den : Nat) {exempt above : Bool} {bound : Rat} {part whole : Nat}
    (ended : shareAbove exempt bound part whole = .ok above)
    (rounded : nearest ((num : Rat) / den) = bound) (few : num < 2 ^ 11) (some : 0 < den)
    (short : den < 2 ^ 40) (small : whole < 2 ^ 40) :
    above = true ↔ exempt = true ∨ num * whole < den * part := by
  cases exempt with
  | true =>
    obtain rfl := Except.ok.inj ended
    exact iff_of_true rfl (.inl rfl)
  | false =>
    obtain ⟨filled, compared⟩ := shareCompared ended
    have order := @ratioAbove part whole num den (by omega) (by omega) (by omega)
      (by omega) (by omega) (by omega) (by omega)
    push_cast at order
    rw [rounded] at order
    rw [compared, decide_eq_true_iff, order]
    simp only [Bool.false_eq_true, false_or]
    exact_mod_cast Iff.rfl

theorem labelsWeigh : labels.Weighs (formLabels s) := by
  refine ⟨[s.count (tag "input"), s.count forLabel], ⟨rfl, ?_⟩, fun small => ?_⟩
  · simp only [formLabels, Verdict.located, String.toList_append, List.append_assoc]
    exact Text.tellingNext (Text.tellingNext List.nil_prefix)
  · obtain ⟨inputs, -⟩ := List.forall_mem_cons.mp small
    simp only [formLabels, Verdict.located, Bool.or_eq_true, beq_iff_eq, decide_eq_true_iff]
    exact or_congr_right (scaledFifths inputs)

theorem focusWeighs : focus.Weighs (keyboardAccess s) := by
  refine ⟨[s.count interactiveTag, s.count (word "tabindex="), s.count negativeTabindex],
    ⟨rfl, ?_⟩, fun small => ?_⟩
  · simp only [keyboardAccess, Verdict.located, String.toList_append, List.append_assoc]
    exact Text.tellingNext (Text.tellingNext Text.tellingLast)
  · obtain ⟨interactive, -⟩ := List.forall_mem_cons.mp small
    simp only [keyboardAccess, Verdict.located, Bool.or_eq_true, beq_iff_eq, decide_eq_true_iff]
    exact or_congr_right (scaledHalf interactive)

theorem spacingWeighs (judged : spacingScale s = .ok v) : spacing.Weighs v := by
  obtain ⟨sizes, -, ended⟩ := bindOk.mp judged
  obtain rfl := Except.ok.inj ended
  refine ⟨[sizes.length, sizes.countP fun size => size % 8 != 0 && 8 < size], ⟨rfl, ?_⟩,
    fun small => ?_⟩
  · simp only [Verdict.plain, String.toList_append, List.append_assoc]
    exact Text.tellingNext Text.tellingLast
  · obtain ⟨declared, -⟩ := List.forall_mem_cons.mp small
    simp only [Verdict.plain, decide_eq_true_iff]
    exact scaledTenths declared

theorem sizesWeigh (judged : layoutShift s = .ok v) : sizes.Weighs v := by
  obtain ⟨above, share, later⟩ := bindOk.mp judged
  obtain ⟨evidence, -, ended⟩ := bindOk.mp later
  obtain rfl := Except.ok.inj ended
  refine ⟨[s.count sizedImg, s.count imgTag], ⟨rfl, ?_⟩, fun small => ?_⟩
  · simp only [Verdict.located, String.toList_append, List.append_assoc]
    exact Text.tellingNext (Text.tellingNext List.nil_prefix)
  · have images := small (s.count imgTag) (by simp)
    have weighed := shareWeighed 4 5 share rfl (by norm_num) (by norm_num)
      (by norm_num) images
    simpa [Verdict.located, Passes] using weighed

theorem scriptsWeigh (judged : thirdPartyScripts s = .ok v) : scripts.Weighs v := by
  obtain ⟨address, -, later⟩ := bindOk.mp judged
  split at later
  · cases later
  · rename_i foreign _
    obtain ⟨above, share, later⟩ := bindOk.mp later
    obtain ⟨evidence, -, ended⟩ := bindOk.mp later
    obtain rfl := Except.ok.inj ended
    refine ⟨[foreign.length, ((s.findAll scriptSource).filter nonBlockingMark.occursIn).length],
      ⟨rfl, ?_⟩, fun small => ?_⟩
    · simp only [Verdict.located, String.toList_append, List.append_assoc]
      exact Text.tellingNext (Text.tellingNext List.nil_prefix)
    · obtain ⟨few, -⟩ := List.forall_mem_cons.mp small
      have weighed := shareWeighed 4 5 share rfl (by norm_num) (by norm_num)
        (by norm_num) few
      simpa [Verdict.located, Passes] using weighed

theorem loadingWeighs (judged : lazyLoading s = .ok v) : loading.Weighs v := by
  obtain ⟨above, share, ended⟩ := bindOk.mp judged
  obtain rfl := Except.ok.inj ended
  refine ⟨[s.count (of [letters "<img", inTag, valued "loading" "lazy"]), s.count imgTag,
    s.count (of [letters "<script", inTag, letters "defer"]),
    s.count (of [letters "<script", inTag, letters "async"])], ⟨rfl, ?_⟩, fun small => ?_⟩
  · simp only [Verdict.plain, String.toList_append, List.append_assoc]
    exact Text.tellingNext (Text.tellingNext (Text.tellingNext Text.tellingLast))
  · have images := small (s.count imgTag) (by simp)
    have halved : nearest (((1 : Nat) : Rat) / (2 : Nat)) = 1 / 2 := by simpa using halfFixed
    have weighed := shareWeighed 1 2 share halved (by norm_num)
      (by norm_num) (by norm_num) images
    rw [decide_eq_true_iff, one_mul] at weighed
    simp only [Verdict.plain, Bool.and_eq_true, decide_eq_true_iff]
    exact and_congr weighed Iff.rfl

theorem verdictWeighs {check : NamedCheck} (found : checks.find? scale.rule = some check)
    (ended : check.run s = .ok v) : scale.Weighs v := by
  cases scale
  all_goals obtain rfl := Option.some.inj found
  case labels => exact Except.ok.inj ended ▸ labelsWeigh
  case focus => exact Except.ok.inj ended ▸ focusWeighs
  case sizes => exact sizesWeigh (failingEnded ended)
  case scripts => exact scriptsWeigh (failingEnded ended)
  case spacing => exact spacingWeighs (failingEnded ended)
  case loading => exact loadingWeighs (failingEnded ended)

theorem weighingEnds {check : NamedCheck} (found : checks.find? scale.rule = some check)
    (readsNumber : scale ≠ .spacing) (readsAddress : scale ≠ .scripts) :
    ∃ v, check.run s = .ok v := by
  have sure : scale.rule ∉ unsure := by
    revert readsNumber readsAddress
    cases scale <;> decide
  exact (tableSure _ (checkListed found)).resolve_right sure s

theorem countsWeighed {check : NamedCheck} (found : checks.find? scale.rule = some check) :
    (scale ≠ .spacing → scale ≠ .scripts → ∃ v, check.run s = .ok v) ∧
    ∀ v, check.run s = .ok v → (∃! counts, scale.Told v counts) ∧
      ∀ counts, scale.Told v counts → (∀ n ∈ counts, n < 2 ^ 40) →
        (v.passed = true ↔ scale.Passes counts) := by
  refine ⟨weighingEnds found, fun v ended => ?_⟩
  obtain ⟨counts, told, weighs⟩ := verdictWeighs found ended
  refine ⟨⟨counts, told, fun others again => toldAlike told again⟩, fun others again small => ?_⟩
  obtain rfl := toldAlike told again
  exact weighs small

end

namespace Scale

/-- Parts of a page, each so many times, on which the counts of a scale stand at its bound. -/
def tieParts : Scale → List (Nat × String)
  | labels => [(5, "<input>"), (4, "<label for='a'>")]
  | sizes => [(4, "<img width=1 height=1>"), (1, "<img>")]
  | scripts => [(4, "<script async src='https://c.d/'>"), (1, "<script src='https://c.d/'>")]
  | spacing => [(7, "margin: 8px;"), (3, "margin: 9px;")]
  | focus => [(1, "<a tabindex='-1'>"), (1, "<a>")]
  | loading => [(5, "<img loading='lazy'>"), (5, "<img>"), (1, "<script defer>")]

def tie (scale : Scale) : Subject :=
  ⟨scale.tieParts.flatMap fun (n, part) => (List.replicate n part.toList).flatten, .empty,
    "https://a.b/"⟩

def tieCounts : Scale → List Nat
  | labels => [5, 4]
  | sizes => [4, 5]
  | scripts => [5, 4]
  | spacing => [10, 3]
  | focus => [2, 1, 1]
  | loading => [5, 10, 1, 0]

def TieEnds (scale : Scale) (passed : Bool) : Prop :=
  ∃ check v, checks.find? scale.rule = some check ∧ check.run scale.tie = .ok v ∧
    scale.Told v scale.tieCounts ∧ v.passed = passed

end Scale

theorem tieTold (scale : Scale) : ∃ check v, checks.find? scale.rule = some check ∧
    check.run scale.tie = .ok v ∧ scale.Told v scale.tieCounts := by
  have told : ((checks.find? scale.rule).bind fun check => (check.run scale.tie).toOption).any
      (fun v => scale.Told v scale.tieCounts) = true := by
    cases scale <;> decide +kernel
  obtain ⟨v, ended, told⟩ := (Option.any_eq_true ..).mp told
  obtain ⟨check, found, ended⟩ := Option.bind_eq_some_iff.mp ended
  refine ⟨check, v, found, ?_, of_decide_eq_true told⟩
  cases run : check.run scale.tie with
  | error e =>
    rw [run] at ended
    cases ended
  | ok w =>
    rw [run] at ended
    exact congrArg Except.ok (Option.some.inj ended)

theorem tiesWeighed : labels.TieEnds true ∧ sizes.TieEnds false ∧ scripts.TieEnds false ∧
    spacing.TieEnds false ∧ focus.TieEnds false ∧ loading.TieEnds false := by
  have ends (scale : Scale) (passed : Bool)
      (compared : passed = true ↔ scale.Passes scale.tieCounts) : scale.TieEnds passed := by
    obtain ⟨check, v, found, ended, told⟩ := tieTold scale
    obtain ⟨-, weighed⟩ := (countsWeighed found).2 v ended
    have small : ∀ n ∈ scale.tieCounts, n < 2 ^ 40 := by cases scale <;> decide
    exact ⟨check, v, found, ended, told,
      Bool.eq_iff_iff.mpr ((weighed _ told small).trans compared.symm)⟩
  have fails {scale : Scale} (unmet : ¬scale.Passes scale.tieCounts) : scale.TieEnds false :=
    ends scale false (by simpa using unmet)
  exact ⟨ends labels true (by simp [Passes, tieCounts]), fails (by simp [Passes, tieCounts]),
    fails (by simp [Passes, tieCounts]), fails (by simp [Passes, tieCounts]),
    fails (by simp [Passes, tieCounts]), fails (by simp [Passes, tieCounts])⟩

end PageAudit.Check
