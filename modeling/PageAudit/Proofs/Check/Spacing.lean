import PageAudit.Check.Table
import PageAudit.Proofs.Check.Faults
import PageAudit.Proofs.Check.Numbers
import PageAudit.Proofs.Failure
import PageAudit.Proofs.Pattern.Leftmost
import PageAudit.Proofs.Pattern.Value
import PageAudit.Proofs.Text.Parted
/-!
Spacing in pixels. A style sheet of paddings and margins is read one declaration after another, but
only a margin is read with its number, so no padding is ever off the scale.
-/
namespace PageAudit.Check

open Pattern

inductive Property where
  | padding
  | margin
  deriving DecidableEq, Repr

structure Pixels where
  digits : List Char
  filled : digits ≠ []
  numeric : ∀ c ∈ digits, Text.isDigit c = true
  short : digits.length ≤ maxDigits

namespace Pixels

def size (pixels : Pixels) : Nat := Text.numeral pixels.digits

def offScale (pixels : Pixels) : Bool := pixels.size % 8 != 0 && 8 < pixels.size

end Pixels

def Property.name : Property → String
  | padding => "padding"
  | margin => "margin"

structure Declaration where
  property : Property
  pixels : Pixels

namespace Declaration

def text (declaration : Declaration) : List Char :=
  declaration.property.name.toList ++ (": ".toList ++ (declaration.pixels.digits ++ "px;".toList))

def found : Declaration → List Char
  | ⟨.padding, _⟩ => "padding".toList
  | ⟨.margin, pixels⟩ => "margin:".toList ++ ([' '] ++ (pixels.digits ++ "px".toList))

def left : Declaration → List Char
  | ⟨.padding, pixels⟩ => ": ".toList ++ (pixels.digits ++ "px;".toList)
  | ⟨.margin, _⟩ => [';']

def size : Declaration → Nat
  | ⟨.padding, _⟩ => 0
  | ⟨.margin, pixels⟩ => pixels.size

theorem paddingFound (pixels : Pixels) : found ⟨.padding, pixels⟩ = "padding".toList := rfl

theorem marginFound (pixels : Pixels) : found ⟨.margin, pixels⟩ =
    "margin:".toList ++ ([' '] ++ (pixels.digits ++ "px".toList)) := rfl

theorem paddingLeft (pixels : Pixels) : left ⟨.padding, pixels⟩ =
    ": ".toList ++ (pixels.digits ++ "px;".toList) := rfl

theorem textParts : (declaration : Declaration) →
    declaration.text = declaration.found ++ declaration.left
  | ⟨.padding, _⟩ => rfl
  | ⟨.margin, pixels⟩ => by
    have word : "margin".toList ++ ": ".toList = "margin:".toList ++ [' '] := by decide
    have unit : "px;".toList = "px".toList ++ [';'] := by decide
    rw [text, ← List.append_assoc, unit, marginFound]
    change "margin".toList ++ ": ".toList ++ _ = _ ++ [';']
    rw [word]
    simp only [List.append_assoc]

end Declaration

def sheet (declarations : List Declaration) : List Char :=
  declarations.flatMap Declaration.text

def spacingTold (declarations irregular : Nat) : Verdict :=
  .plain (irregular < Number.scaled declarations (3 / 10))
    s!"{declarations} spacing declarations, {irregular} not on 8px scale"
    "Use consistent spacing scale: 8px, 16px, 24px, 32px, etc. (8px base unit)."

section
variable {text rest : List Char} {declaration : Declaration} {pixels : Pixels} {before c : Char}
  {t u : Trail}

theorem spacingReads : spacingDeclaration.Reads t text u ↔
    (∃ read rest, text = read ++ rest ∧
      read.map Text.caseKey = "padding".toList.map Text.caseKey ∧ u = t.over read) ∨
    ∃ read gap digits unit rest, text = read ++ (gap ++ (digits ++ (unit ++ rest))) ∧
      read.map Text.caseKey = "margin:".toList.map Text.caseKey ∧
      (∀ c ∈ gap, Text.isBlank c = true) ∧ digits ≠ [] ∧ (∀ c ∈ digits, Text.isDigit c = true) ∧
      unit.map Text.caseKey = "px".toList.map Text.caseKey ∧
      u = (((t.over read).over gap).over digits).over unit := by
  refine or_congr ?_ ?_
  · exact lettersRead "padding"
  · constructor
    · intro reads
      obtain ⟨read, _, rfl, keys, gap, _, rfl, blank, reads⟩ := (lettersRead "margin:").mp reads
      obtain ⟨digits, _, rfl, filled, numeric, reads⟩ := someRead.mp reads
      obtain ⟨unit, rest, rfl, ends, rfl⟩ := (lettersRead "px").mp reads
      exact ⟨read, gap, digits, unit, rest, rfl, keys, blank, filled, numeric, ends, rfl⟩
    · rintro ⟨read, gap, digits, unit, rest, rfl, keys, blank, filled, numeric, ends, rfl⟩
      exact (lettersRead "margin:").mpr ⟨read, _, rfl, keys, gap, _, rfl, blank, someRead.mpr
        ⟨digits, _, rfl, filled, numeric, (lettersRead "px").mpr ⟨unit, rest, rfl, ends, rfl⟩⟩⟩

theorem foundReads (t : Trail) (declaration : Declaration) (rest : List Char) :
    ∃ u, spacingDeclaration.Reads t (declaration.found ++ rest) u := by
  obtain ⟨_ | _, pixels⟩ := declaration
  case padding => exact ⟨_, spacingReads.mpr (.inl ⟨_, _, rfl, rfl, rfl⟩)⟩
  case margin =>
    refine ⟨_, spacingReads.mpr (.inr ⟨_, [' '], pixels.digits, "px".toList, rest, ?_, rfl,
      List.forall_mem_singleton.mpr (by decide), pixels.filled, pixels.numeric, rfl, rfl⟩)⟩
    rw [Declaration.marginFound, List.append_assoc, List.append_assoc, List.append_assoc]

theorem valueAlike {gap digits unit later : List Char} (blank : ∀ c ∈ gap, Text.isBlank c = true)
    (filled : digits ≠ []) (numeric : ∀ c ∈ digits, Text.isDigit c = true)
    (ends : unit.map Text.caseKey = "px".toList.map Text.caseKey)
    (same : [' '] ++ (pixels.digits ++ ("px".toList ++ rest)) =
      gap ++ (digits ++ (unit ++ later))) : gap = [' '] ∧ digits = pixels.digits := by
  have solid : ∀ {c : Char}, Text.isDigit c = true → (!Text.isBlank c) = true := by
    intro c digit
    cases blank : Text.isBlank c with
    | false => rfl
    | true => cases (Text.blankNoDigit blank).symm.trans digit
  obtain ⟨x, unit, rfl⟩ : ∃ x more, unit = x :: more := by
    cases unit with
    | nil => cases ends
    | cons x more => exact ⟨x, more, rfl⟩
  have stop : Text.isDigit x = false :=
    Text.letterNoDigit (l := 'p') (by decide) (beq_iff_eq.mpr (List.cons.inj ends).1)
  obtain ⟨d, digits, rfl⟩ := List.exists_cons_of_ne_nil filled
  obtain ⟨e, others, whole⟩ := List.exists_cons_of_ne_nil pixels.filled
  have first : Text.isDigit e = true := pixels.numeric e (by rw [whole]; exact List.mem_cons_self)
  rw [whole] at same
  obtain ⟨rfl, rfl, same⟩ := Text.partedAlike (p := (!Text.isBlank ·))
    (List.forall_mem_singleton.mpr (by decide)) (fun c member => by rw [blank c member]; rfl)
    (solid first) (solid (numeric d List.mem_cons_self)) same
  have plain : ∀ {digits : List Char}, (∀ c ∈ digits, Text.isDigit c = true) →
      ∀ c ∈ digits, (!Text.isDigit c) = false :=
    fun numeric c member => by rw [numeric c member]; rfl
  have others₁ := (List.forall_mem_cons.mp (whole ▸ pixels.numeric)).2
  obtain ⟨rfl, -⟩ := Text.partedAlike (p := (!Text.isDigit ·)) (plain others₁)
    (plain (List.forall_mem_cons.mp numeric).2) (x := 'p') (by decide) (by rw [stop]; rfl)
    (by simpa using same)
  exact ⟨rfl, whole.symm⟩

theorem foundTaken
    (reads : spacingDeclaration.Reads (.start before) (declaration.found ++ rest) u) :
    u.taken = declaration.found.length := by
  have unlike : "padding".toList.map Text.caseKey ≠ "margin:".toList.map Text.caseKey := by decide
  have lengths : "padding".toList.length = "margin:".toList.length := by decide
  obtain ⟨_ | _, pixels⟩ := declaration
  case padding =>
    rw [Declaration.paddingFound] at reads
    rcases spacingReads.mp reads with ⟨read, later, same, keys, rfl⟩ |
      ⟨read, gap, digits, unit, later, same, keys, -⟩
    · rw [Trail.overTaken, keysLength keys, Trail.start, Nat.zero_add, Declaration.paddingFound]
    · have name := (List.append_inj same (lengths.trans (keysLength keys).symm)).1
      rw [← name] at keys
      exact absurd keys unlike
  case margin =>
    rw [Declaration.marginFound, List.append_assoc, List.append_assoc, List.append_assoc] at reads
    rcases spacingReads.mp reads with ⟨read, later, same, keys, rfl⟩ |
      ⟨read, gap, digits, unit, later, same, keys, blank, filled, numeric, ends, rfl⟩
    · have name := (List.append_inj same (lengths.symm.trans (keysLength keys).symm)).1
      rw [← name] at keys
      exact absurd keys.symm unlike
    · have value := (List.append_inj same (keysLength keys).symm).2
      obtain ⟨one, number⟩ := valueAlike blank filled numeric ends value
      rw [Trail.overTaken, Trail.overTaken, Trail.overTaken, Trail.overTaken, keysLength keys,
        keysLength ends, one, number, Declaration.marginFound]
      simp only [List.length_append, Trail.start]
      omega

theorem digitIdle (digit : Text.isDigit c = true) : spacingDeclaration.mayStartWith c = false := by
  have other : ∀ {l : Char}, Text.isDigit (Text.caseKey l) = false →
      Text.hasKey (Text.caseKey l) c = false := by
    refine fun letter => Bool.eq_false_iff.mpr fun read => ?_
    cases (Text.letterNoDigit letter read).symm.trans digit
  exact Bool.or_eq_false_iff.mpr ⟨other (l := 'p') (by decide), other (l := 'm') (by decide)⟩

/- Behind a padding, its own unit begins as one more padding would and goes on differently. -/
theorem leftIdle (declaration : Declaration) (before : Char) (rest : List Char) :
    spacingDeclaration.scan 0 before (declaration.left ++ rest) =
      spacingDeclaration.scan 0 ';' rest := by
  have free : ∀ {part : List Char}, part.all (!spacingDeclaration.mayStartWith ·) = true →
      ∀ c ∈ part, spacingDeclaration.mayStartWith c = false := by
    intro part none c member
    simpa using List.all_eq_true.mp none c member
  obtain ⟨_ | _, pixels⟩ := declaration
  case padding =>
    have unit : ∀ before, spacingDeclaration.matchAt? before ('p' :: 'x' :: ';' :: rest) = none :=
      fun before => rfl
    rw [Declaration.paddingLeft, List.append_assoc, List.append_assoc,
      scanPast (free (by decide)), scanPast fun c member => digitIdle (pixels.numeric c member)]
    change spacingDeclaration.scan 0 _ ('p' :: 'x' :: ';' :: rest) = _
    rw [scan, unit]
    change spacingDeclaration.scan 0 'p' (['x', ';'] ++ rest) = _
    exact scanPast (free (by decide))
  case margin =>
    change spacingDeclaration.scan 0 before ([';'] ++ rest) = _
    exact scanPast (free (by decide))

theorem declaredScan (declaration : Declaration) (before : Char) (rest : List Char) :
    (spacingDeclaration.scan 0 before (declaration.text ++ rest)).map Match.text =
      declaration.found :: (spacingDeclaration.scan 0 ';' rest).map Match.text := by
  rw [Declaration.textParts, List.append_assoc]
  obtain ⟨u, reads⟩ := foundReads (.start before) declaration (declaration.left ++ rest)
  obtain ⟨t, matched⟩ := readsRun reads
  have taken := foundTaken (runReads matched)
  have filled : 0 < t.taken := by
    rw [taken]
    obtain ⟨_ | _, pixels⟩ := declaration <;>
      simp [Declaration.paddingFound, Declaration.marginFound]
  rw [scanOnward (leftmostHere matched) filled, List.map_cons, Trail.found, taken, List.take_left,
    List.drop_left, leftIdle]

theorem sheetFound (declarations : List Declaration) :
    spacingDeclaration.findAll (sheet declarations) = declarations.map Declaration.found := by
  have scanned : ∀ before, (spacingDeclaration.scan 0 before (sheet declarations)).map Match.text =
      declarations.map Declaration.found := by
    induction declarations with
    | nil => exact fun before => rfl
    | cons declaration declarations ih =>
      intro before
      rw [List.map_cons, ← ih ';']
      exact declaredScan declaration before (sheet declarations)
  rw [findAll, matchesScan, scanned]

theorem foundSize (declaration : Declaration) :
    Check.pixels declaration.found = .ok declaration.size := by
  rw [pixelsRead]
  obtain ⟨_ | _, pixels⟩ := declaration
  case padding =>
    have none : firstDigits "padding".toList = [] := by decide
    rw [Declaration.paddingFound, none]
    rfl
  case margin =>
    have plain : ("margin: ".toList ++ "px".toList).all (!Text.isDigit ·) = true := by decide
    simp only [List.all_append, Bool.and_eq_true, List.all_eq_true, Bool.not_eq_true'] at plain
    have run : OneRun (Declaration.found ⟨.margin, pixels⟩) "margin: ".toList pixels.digits
        "px".toList :=
      ⟨rfl, pixels.numeric, plain.1, plain.2⟩
    rw [run.first, readNumber, if_neg (Nat.not_lt.mpr pixels.short)]
    rfl

theorem sheetJudged (declarations : List Declaration) (headers : Http.Headers) (site : String) :
    spacingScale ⟨sheet declarations, headers, site⟩ = .ok (spacingTold declarations.length
      (declarations.countP fun declaration =>
        declaration.property == .margin && declaration.pixels.offScale)) := by
  have read : (spacingDeclaration.findAll (sheet declarations)).mapM Check.pixels =
      .ok (declarations.map Declaration.size) := by
    rw [sheetFound, List.mapM_map]
    exact (mapMAlike fun declaration _ => foundSize declaration).trans List.mapM_pure
  refine bindOk.mpr ⟨_, read, congrArg Except.ok ?_⟩
  have irregular : (declarations.map Declaration.size).countP
      (fun size => size % 8 != 0 && 8 < size) = declarations.countP fun declaration =>
        declaration.property == .margin && declaration.pixels.offScale := by
    rw [List.countP_map]
    refine List.countP_congr fun declaration _ => ?_
    obtain ⟨_ | _, pixels⟩ := declaration <;> exact Iff.rfl
  simp only [irregular, List.length_map]
  rfl

theorem spacingAlike {declarations n m : Nat} :
    spacingTold declarations n = spacingTold declarations m ↔ n = m := by
  refine ⟨fun same => ?_, fun same => same ▸ rfl⟩
  have details := congrArg (fun v => v.details.toList) same
  simp only [spacingTold, Verdict.plain, String.toList_append, List.append_assoc] at details
  obtain ⟨-, behind⟩ := Text.countAlike (by decide) details
  rw [← List.append_nil (toString " not on 8px scale").toList] at behind
  exact (Text.countAlike (by decide) behind).1

theorem paddingUnscaled (sizes : List Pixels) (headers : Http.Headers) (site : String) :
    let paddings : Subject := ⟨sheet (sizes.map (⟨.padding, ·⟩)), headers, site⟩
    let margins : Subject := ⟨sheet (sizes.map (⟨.margin, ·⟩)), headers, site⟩
    let irregular := sizes.countP Pixels.offScale
    ∃ check, checks.find? "carbon-001" = some check ∧
      check.run paddings = .ok (spacingTold sizes.length 0) ∧
      check.run margins = .ok (spacingTold sizes.length irregular) ∧
      (check.run paddings = check.run margins ↔ ∀ size ∈ sizes, size.offScale = false) := by
  intro paddings margins irregular
  have padded : spacingScale paddings = .ok (spacingTold sizes.length 0) := by
    rw [sheetJudged, List.length_map, List.countP_map]
    congr 2
    exact List.countP_eq_zero.mpr fun _ _ => Bool.false_ne_true
  have spaced : spacingScale margins = .ok (spacingTold sizes.length irregular) := by
    rw [sheetJudged, List.length_map, List.countP_map]
    rfl
  refine ⟨_, rfl, failingGives _ padded, failingGives _ spaced, ?_⟩
  rw [failingGives _ padded, failingGives _ spaced, Except.ok.injEq, spacingAlike, eq_comm,
    List.countP_eq_zero]
  simp only [Bool.not_eq_true]

theorem tenPixelsUnscaled :
    let ten : Pixels := ⟨"10".toList, by decide, List.all_eq_true.mp (by decide), by decide⟩
    ∃ check v w, checks.find? "carbon-001" = some check ∧ ten.offScale = true ∧
      check.run ⟨sheet [⟨.padding, ten⟩], .empty, "https://a.b/"⟩ = .ok v ∧
      check.run ⟨sheet [⟨.margin, ten⟩], .empty, "https://a.b/"⟩ = .ok w ∧
      v.details = "1 spacing declarations, 0 not on 8px scale" ∧ v.passed = true ∧
      w.details = "1 spacing declarations, 1 not on 8px scale" ∧ w.passed = false := by
  intro ten
  refine ⟨_, spacingTold 1 0, spacingTold 1 1, rfl, by decide, failingGives _ ?_, failingGives _ ?_,
    by decide, by decide +kernel, by decide, by decide +kernel⟩
  · exact sheetJudged [⟨.padding, ten⟩] .empty "https://a.b/"
  · have off : ten.offScale = true := by decide
    rw [sheetJudged, List.countP_singleton, off]
    rfl

end

end PageAudit.Check
