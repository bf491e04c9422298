import PageAudit.Proofs.Pattern.Scan
import PageAudit.Text.Kind
/-!
Markup in small letters. A pattern that tells no capital from its small letter matches there where
it matched before, and takes as many characters.
-/
namespace PageAudit

namespace Text

def capitals : List Char := (List.range 26).map fun i => Char.ofNat (65 + i)

def lowered (text : List Char) : List Char := text.map Char.toLower

def uncased {β : Type} [DecidableEq β] (f : Char → β) : Bool :=
  capitals.all fun c => f c.toLower = f c

theorem smallOrCapital (c : Char) : c.toLower = c ∨ c ∈ capitals := by
  unfold Char.toLower
  split
  · rename_i inside
    have low : 65 ≤ c.toNat := UInt32.le_iff_toNat_le.mp inside.1
    have high : c.toNat ≤ 90 := UInt32.le_iff_toNat_le.mp inside.2
    refine .inr (List.mem_map.mpr ⟨c.toNat - 65, List.mem_range.mpr (by omega), ?_⟩)
    rw [Nat.add_sub_cancel' low, Char.ofNat_toNat]
  · exact .inl rfl

theorem uncasedSame {β : Type} [DecidableEq β] {f : Char → β} (same : uncased f = true)
    (c : Char) : f c.toLower = f c := by
  rcases smallOrCapital c with small | capital
  · rw [small]
  · simpa using List.all_eq_true.mp same c capital

theorem wordLowered (c : Char) : isWord c.toLower = isWord c := uncasedSame (by decide) c

theorem blankLowered (c : Char) : isBlank c.toLower = isBlank c := uncasedSame (by decide) c

theorem digitLowered (c : Char) : digitValue? c.toLower = digitValue? c :=
  uncasedSame (by decide) c

theorem lowerLowered (c : Char) : lower c.toLower = lower c := uncasedSame (by decide) c

end Text

namespace Pattern

open Text

def caseless : Pattern → Bool
  | done => true
  | one accepts next | many accepts next | few accepts next => uncased accepts && next.caseless
  | either left right => left.caseless && right.caseless
  | lacking ahead next => ahead.caseless && next.caseless
  | edge next | opening next | closing next | again next => next.caseless

def Trail.lowered (t : Trail) : Trail :=
  { t with before := t.before.toLower, groupText := Text.lowered t.groupText }

def Place.lowered (place : Place) : Place := (place.1.lowered, Text.lowered place.2)

def Match.lowered (m : Match) : Match := ⟨Text.lowered m.text, Text.lowered m.group⟩

section
variable {accepts : Char → Bool} {t : Trail} {text : List Char}

@[simp] theorem loweredNil : lowered [] = [] := rfl

@[simp] theorem loweredCons (c : Char) (rest : List Char) :
    lowered (c :: rest) = c.toLower :: lowered rest := rfl

@[simp] theorem stepLowered (t : Trail) (c : Char) :
    t.lowered.step c.toLower = (t.step c).lowered := rfl

theorem groupLowered (t : Trail) : t.lowered.group = lowered t.group := by
  simp [Trail.group, Trail.lowered, lowered, List.map_take]

theorem runsLowered (same : uncased accepts = true) (shorter : List Place) (t : Trail)
    (text : List Char) :
    runs accepts (shorter.map Place.lowered) t.lowered (lowered text) =
      (runs accepts shorter t text).map Place.lowered := by
  induction text generalizing shorter t with
  | nil => rfl
  | cons c rest ih =>
    have longer := ih ((t, c :: rest) :: shorter) (t.step c)
    simp only [loweredCons, runs, uncasedSame same]
    split
    · exact longer
    · rfl

theorem soonestLowered (same : uncased accepts = true)
    {goal : Trail → List Char → Option Trail}
    (goals : ∀ t text, goal t.lowered (lowered text) = (goal t text).map Trail.lowered)
    (t : Trail) (text : List Char) :
    soonest accepts goal t.lowered (lowered text) =
      (soonest accepts goal t text).map Trail.lowered := by
  induction text generalizing t with
  | nil => exact goals t []
  | cons c rest ih =>
    have here := goals t (c :: rest)
    simp only [loweredCons] at here
    simp only [loweredCons, soonest, here, uncasedSame same, stepLowered, ih]
    cases goal t (c :: rest) with
    | some reached => rfl
    | none =>
      simp only [Option.map_none]
      split
      · rfl
      · rfl

theorem rereadLowered (group : List Char) (t : Trail) (text : List Char) :
    reread (lowered group) t.lowered (lowered text) = (reread group t text).map Place.lowered := by
  induction group generalizing t text with
  | nil => rfl
  | cons g group ih =>
    cases text with
    | nil => rfl
    | cons c rest =>
      simp only [loweredCons, reread, lowerLowered, stepLowered, ih]
      split
      · rfl
      · rfl

theorem edgeLowered (t : Trail) (text : List Char) :
    atEdge t.lowered (lowered text) = atEdge t text := by
  cases text <;> simp [atEdge, Trail.lowered, wordLowered]

theorem runLowered (p : Pattern) (same : p.caseless = true) (t : Trail) (text : List Char) :
    p.run t.lowered (lowered text) = (p.run t text).map Trail.lowered := by
  induction p generalizing t text with
  | done => rfl
  | one accepts next ih =>
    obtain ⟨kind, after⟩ := Bool.and_eq_true_iff.mp same
    cases text with
    | nil => rfl
    | cons c rest =>
      simp only [loweredCons, run, uncasedSame kind, stepLowered, ih after]
      split
      · rfl
      · rfl
  | many accepts next ih =>
    obtain ⟨kind, after⟩ := Bool.and_eq_true_iff.mp same
    have places := runsLowered kind [] t text
    rw [List.map_nil] at places
    simp only [run, places, List.findSome?_map, Function.comp_def, Place.lowered, ih after]
    rw [List.map_findSome?]
    rfl
  | few accepts next ih =>
    obtain ⟨kind, after⟩ := Bool.and_eq_true_iff.mp same
    exact soonestLowered kind (ih after) t text
  | either left right ihLeft ihRight =>
    obtain ⟨sameLeft, sameRight⟩ := Bool.and_eq_true_iff.mp same
    simp only [run, ihLeft sameLeft, ihRight sameRight]
    -- The second side is tried after lowering exactly if it was before.
    cases left.run t text <;> rfl
  | lacking ahead next ihAhead ih =>
    obtain ⟨sameAhead, after⟩ := Bool.and_eq_true_iff.mp same
    simp only [run, ihAhead sameAhead, ih after, Option.isSome_map]
    split
    · rfl
    · rfl
  | edge next ih =>
    simp only [run, edgeLowered, ih same]
    split
    · rfl
    · rfl
  | opening next ih => exact ih same { t with groupText := text, groupStart := t.taken } text
  | closing next ih => exact ih same { t with groupLength := t.taken - t.groupStart } text
  | again next ih =>
    simp only [run, groupLowered, rereadLowered]
    cases reread t.group t text with
    | none => rfl
    | some place => exact ih same place.1 place.2

end

theorem foundLowered (t : Trail) (text : List Char) :
    t.lowered.found (lowered text) = (t.found text).lowered := by
  simp only [Trail.found, Match.lowered, groupLowered, lowered, ← List.map_take]
  rfl

theorem startLowered {p : Pattern} (same : p.caseless = true) (c : Char) :
    p.mayStartWith c.toLower = p.mayStartWith c := by
  induction p with
  | one accepts next ih => exact uncasedSame (Bool.and_eq_true_iff.mp same).1 c
  | either left right ihLeft ihRight =>
    obtain ⟨sameLeft, sameRight⟩ := Bool.and_eq_true_iff.mp same
    simp only [mayStartWith, ihLeft sameLeft, ihRight sameRight]
  | edge next ih => exact ih same
  | opening next ih => exact ih same
  | closing next ih => rfl
  | done => rfl
  | many accepts next ih => rfl
  | few accepts next ih => rfl
  | lacking ahead next ihAhead ih => rfl
  | again next ih => rfl

section
variable {p : Pattern} (same : p.caseless = true)
include same

theorem matchLowered (before : Char) (text : List Char) :
    p.matchAt? before.toLower (lowered text) = (p.matchAt? before text).map Trail.lowered :=
  runLowered p same (Trail.start before) text

theorem scanLowered (skip : Nat) (before : Char) (text : List Char) :
    p.scan skip before.toLower (lowered text) = (p.scan skip before text).map Match.lowered := by
  induction text generalizing skip before with
  | nil =>
    cases skip with
    | succ skip => rfl
    | zero =>
      have here := matchLowered same before []
      simp only [loweredNil] at here
      simp only [loweredNil, scan, here]
      cases p.matchAt? before [] with
      | none => rfl
      | some t => exact congrArg (fun m => [m]) (foundLowered t [])
  | cons c rest ih =>
    cases skip with
    | succ skip => exact ih skip c
    | zero =>
      have here := matchLowered same before (c :: rest)
      simp only [loweredCons] at here
      simp only [loweredCons, scan, here, ih]
      cases p.matchAt? before (c :: rest) with
      | none => rfl
      | some t =>
        simp only [Option.map_some, ← loweredCons, foundLowered, List.map_cons]
        rfl

theorem matchesLowered (text : List Char) :
    p.matches? (lowered text) = (p.matches? text).map Match.lowered := by
  rw [matchesScan, matchesScan]
  exact scanLowered same 0 ' ' text

theorem findAllLowered (text : List Char) :
    p.findAll (lowered text) = (p.findAll text).map lowered := by
  simp only [findAll, matchesLowered same, List.map_map]
  rfl

theorem countLowered (text : List Char) : p.count (lowered text) = p.count text := by
  simp only [countScan, ← matchesScan, matchesLowered same, List.length_map]

theorem findLowered (text : List Char) :
    p.find? (lowered text) = (p.find? text).map Match.lowered := by
  simp only [find?, findScan, ← matchesScan, matchesLowered same, List.head?_map]

theorem occursLowered (text : List Char) : p.occursIn (lowered text) = p.occursIn text := by
  rw [occursIn, findLowered same, Option.isSome_map]
  rfl

theorem removeFromLowered (skip : Nat) (kept : List Char) (before : Char) (text : List Char) :
    p.removeFrom skip (lowered kept) before.toLower (lowered text) =
      lowered (p.removeFrom skip kept before text) := by
  induction text generalizing skip kept before with
  | nil => cases skip <;> rfl
  | cons c rest ih =>
    cases skip with
    | succ skip => exact ih skip kept c
    | zero =>
      have here := matchLowered same before (c :: rest)
      simp only [loweredCons] at here
      simp only [loweredCons, removeFrom, startLowered same, here]
      have keeps := ih 0 (c :: kept) c
      cases p.matchAt? before (c :: rest) with
      | none =>
        simp only [Option.map_none, ite_self]
        exact keeps
      | some t =>
        have drops := ih (t.taken - 1) kept c
        split
        · by_cases none : t.taken = 0
          · simp only [Option.map_some, Trail.lowered, none, if_true]
            exact keeps
          · simp only [Option.map_some, Trail.lowered, none, if_false]
            exact drops
        · exact keeps

theorem removeLowered (text : List Char) : p.remove (lowered text) = lowered (p.remove text) := by
  have removed := removeFromLowered same 0 [] ' ' text
  simp only [remove, lowered, List.map_reverse]
  exact congrArg List.reverse removed

end

end Pattern

end PageAudit
