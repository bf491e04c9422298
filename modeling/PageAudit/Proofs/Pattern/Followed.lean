import PageAudit.Proofs.Pattern.Scan
/-!
Matches of a text that is followed by more. What matched in the text still matches, and the match is
the same one unless it now goes on beyond the old end.
-/
namespace PageAudit.Pattern

structure Trail.Alike (t u : Trail) : Prop where
  before : t.before = u.before
  taken : t.taken = u.taken

/-- A success lasts: it does not get lost, and it is the same or ends behind the old end. -/
structure Lasts (ends : Nat) (found found' : Option Trail) : Prop where
  kept : (∃ u, found = some u) → ∃ v, found' = some v
  same : ∀ v, found' = some v → (∃ u, found = some u ∧ u.Alike v) ∨ ends < v.taken

def Followed (p : Pattern) : Prop :=
  ∀ {t t' : Trail}, t.Alike t' → ∀ text more : List Char,
    Lasts (t.taken + text.length) (p.run t text) (p.run t' (text ++ more))

section
variable {ends : Nat} {found found' other other' : Option Trail}

theorem Lasts.missing (beyond : ∀ v, found' = some v → ends < v.taken) :
    Lasts ends none found' where
  kept := nofun
  same v matched := .inr (beyond v matched)

theorem Lasts.neither : Lasts ends none none :=
  .missing fun _ found => by cases found

theorem Lasts.or (first : Lasts ends found found') (second : Lasts ends other other') :
    Lasts ends (found.or other) (found'.or other') where
  kept := by
    rintro ⟨u, matched⟩
    rcases Option.or_eq_some_iff.mp matched with one | ⟨-, one⟩
    · obtain ⟨v, matched'⟩ := first.kept ⟨u, one⟩
      exact ⟨v, by rw [matched', Option.some_or]⟩
    · obtain ⟨v, matched'⟩ := second.kept ⟨u, one⟩
      cases found' with
      | none => exact ⟨v, matched'⟩
      | some w => exact ⟨w, rfl⟩
  same v matched := by
    rcases Option.or_eq_some_iff.mp matched with one | ⟨absent, one⟩
    · rcases first.same v one with ⟨u, before, alike⟩ | beyond
      · exact .inl ⟨u, by rw [before, Option.some_or], alike⟩
      · exact .inr beyond
    · -- Had the first one matched before, it would not be absent now.
      cases found with
      | none => exact second.same v one
      | some u =>
        obtain ⟨w, there⟩ := first.kept ⟨u, rfl⟩
        cases absent.symm.trans there

end

section
variable {p next : Pattern} {accepts : Char → Bool} {t t' u v : Trail} {text more : List Char}

theorem Trail.Alike.step (alike : t.Alike t') (c : Char) : (t.step c).Alike (t'.step c) :=
  ⟨rfl, congrArg (· + 1) alike.taken⟩

theorem runForward (matched : p.run t text = some u) : t.taken ≤ u.taken := by
  obtain ⟨part, taken⟩ := readsTaken p (runReads matched)
  rw [taken.length]
  exact Nat.le_add_right ..

theorem runBeyond (alike : t.Alike t') {c : Char} (matched : p.run (t'.step c) text = some v) :
    t.taken < v.taken := by
  have forward := runForward matched
  rwa [Trail.stepTaken, ← alike.taken] at forward

theorem stepEnd (t : Trail) (c : Char) (rest : List Char) :
    (t.step c).taken + rest.length = t.taken + (c :: rest).length := by
  rw [Trail.stepTaken, List.length_cons]
  omega

theorem runsBefore (shorter : List Place) (t : Trail) (text : List Char) :
    runs accepts shorter t text = runs accepts [] t text ++ shorter := by
  induction text generalizing shorter t with
  | nil => rfl
  | cons c rest ih =>
    rw [runs, runs]
    split
    · rw [ih, ih [(t, c :: rest)], List.append_assoc]
      rfl
    · rfl

theorem runManyEnd (accepts : Char → Bool) (next : Pattern) (t : Trail) :
    (many accepts next).run t [] = next.run t [] := by
  rw [run, runs, List.findSome?_singleton]

theorem runManyStep (accepts : Char → Bool) (next : Pattern) (t : Trail) (c : Char)
    (rest : List Char) :
    (many accepts next).run t (c :: rest) =
      if accepts c then ((many accepts next).run (t.step c) rest).or (next.run t (c :: rest))
      else next.run t (c :: rest) := by
  rw [run, runs, run]
  split
  · rw [runsBefore, List.findSome?_append, List.findSome?_singleton]
  · rw [List.findSome?_singleton]

theorem runFewStep (accepts : Char → Bool) (next : Pattern) (t : Trail) (c : Char)
    (rest : List Char) :
    (few accepts next).run t (c :: rest) =
      (next.run t (c :: rest)).or
        (if accepts c then (few accepts next).run (t.step c) rest else none) := by
  rw [run, soonest]
  cases next.run t (c :: rest) <;> rfl

theorem runEither (left right : Pattern) (t : Trail) (text : List Char) :
    (either left right).run t text = (left.run t text).or (right.run t text) := by
  rw [run]
  cases left.run t text <;> rfl

theorem followedDone : Followed done := fun alike _ _ =>
  ⟨fun _ => ⟨_, rfl⟩, fun _ matched => .inl ⟨_, rfl, Option.some.inj matched ▸ alike⟩⟩

theorem followedOne (accepts : Char → Bool) (after : Followed next) :
    Followed (one accepts next) := by
  intro t t' alike text more
  cases text with
  | nil =>
    refine .missing fun v matched => ?_
    obtain ⟨c, rest, -, -, reads⟩ := runReads matched
    obtain ⟨u, found⟩ := readsRun reads
    obtain ⟨part, taken⟩ := readsTaken next reads
    rw [List.length_nil, taken.length, Trail.stepTaken, alike.taken]
    omega
  | cons c rest =>
    rw [List.cons_append, run, run, ← stepEnd]
    split
    · exact after (alike.step c) rest more
    · exact .neither

theorem followedMany (accepts : Char → Bool) (after : Followed next) :
    Followed (many accepts next) := by
  intro t t' alike text more
  induction text generalizing t t' with
  | nil =>
    have here := after alike [] more
    rw [runManyEnd]
    cases more with
    | nil => rwa [List.append_nil, runManyEnd]
    | cons d rest =>
      rw [List.nil_append, runManyStep]
      split
      · exact .or (.missing fun v farther => runBeyond alike farther) here
      · exact here
  | cons c rest ih =>
    have here := after alike (c :: rest) more
    have farther := ih (alike.step c)
    rw [stepEnd] at farther
    rw [List.cons_append, runManyStep, runManyStep]
    split
    · exact .or farther here
    · exact here

theorem followedFew (accepts : Char → Bool) (after : Followed next) :
    Followed (few accepts next) := by
  intro t t' alike text more
  induction text generalizing t t' with
  | nil =>
    have here := after alike [] more
    cases more with
    | nil => exact here
    | cons d rest =>
      rw [List.nil_append, runFewStep, ← Option.or_none (o := (few accepts next).run t [])]
      refine .or here (.missing fun v farther => ?_)
      split at farther
      · exact runBeyond alike farther
      · cases farther
  | cons c rest ih =>
    have here := after alike (c :: rest) more
    have farther := ih (alike.step c)
    rw [stepEnd] at farther
    rw [List.cons_append, runFewStep, runFewStep]
    refine .or here ?_
    split
    · exact farther
    · exact .neither

theorem followedEither {left right : Pattern} (onLeft : Followed left) (onRight : Followed right) :
    Followed (either left right) := by
  intro t t' alike text more
  rw [runEither, runEither]
  exact .or (onLeft alike text more) (onRight alike text more)

theorem followedLacking {ahead : Pattern} (looks : Followed ahead) (after : Followed next)
    (apart : ∀ far near, ahead.Takes far → next.Takes near → ¬near <+: far) :
    Followed (lacking ahead next) := by
  intro t t' alike text more
  have looked := looks alike text more
  have here := after alike text more
  rw [run, run]
  cases before : ahead.run t text with
  | some u =>
    obtain ⟨v, found⟩ := looked.kept ⟨u, before⟩
    rw [found]
    exact .neither
  | none =>
    cases found : ahead.run t' (text ++ more) with
    | none => exact here
    | some v =>
      rcases looked.same v found with ⟨u, there, -⟩ | beyond
      · cases before.symm.trans there
      · cases inside : next.run t text with
        | none => exact .neither
        | some w =>
          obtain ⟨far, takenFar⟩ := readsTaken ahead (runReads found)
          obtain ⟨near, takenNear⟩ := readsTaken next (runReads inside)
          -- What must not match goes on beyond the old end, and so farther than the rest did.
          have short : near.length ≤ far.length := by
            have length := takenNear.starts.length_le
            rw [takenFar.length, alike.taken] at beyond
            omega
          exact absurd (List.prefix_of_prefix_length_le
            (takenNear.starts.trans (List.prefix_append ..)) takenFar.starts short)
            (apart far near takenFar.kind takenNear.kind)

theorem followedEdge (accepts : Char → Bool) (after : Followed (one accepts next)) :
    Followed (edge (one accepts next)) := by
  intro t t' alike text more
  have here := after alike text more
  have short : ∀ (p : Pattern) t text,
      (edge p).run t text = if atEdge t text then p.run t text else none := fun _ _ _ => rfl
  rw [short, short]
  cases text with
  | nil =>
    have none : (if atEdge t [] then (one accepts next).run t [] else none) = none := ite_self _
    rw [none]
    refine .missing fun v matched => ?_
    split at matched
    · rcases here.same v matched with ⟨u, before, -⟩ | beyond
      · cases before
      · exact beyond
    · cases matched
  | cons c rest =>
    have edges : atEdge t' (c :: rest ++ more) = atEdge t (c :: rest) := by
      rw [List.cons_append, atEdge, atEdge, alike.before]
    rw [edges]
    split
    · exact here
    · exact .neither

theorem followedOpening (after : Followed next) : Followed (opening next) := by
  intro t t' alike text more
  have opened : Trail.Alike { t with groupText := text, groupStart := t.taken }
      { t' with groupText := text ++ more, groupStart := t'.taken } :=
    ⟨alike.before, alike.taken⟩
  exact after opened text more

theorem followedClosing (after : Followed next) : Followed (closing next) := by
  intro t t' alike text more
  have closed : Trail.Alike { t with groupLength := t.taken - t.groupStart }
      { t' with groupLength := t'.taken - t'.groupStart } :=
    ⟨alike.before, alike.taken⟩
  exact after closed text more

def growing : Pattern → Bool
  | done => true
  | one _ next | many _ next | few _ next | opening next | closing next => next.growing
  | either left right => left.growing && right.growing
  | edge (one _ next) => next.growing
  | edge _ | lacking _ _ | again _ => false

theorem growingFollowed {p : Pattern} (grows : p.growing = true) : Followed p := by
  induction p with
  | done => exact followedDone
  | one accepts next ih => exact followedOne accepts (ih grows)
  | many accepts next ih => exact followedMany accepts (ih grows)
  | few accepts next ih => exact followedFew accepts (ih grows)
  | either left right ihLeft ihRight =>
    obtain ⟨growsLeft, growsRight⟩ := Bool.and_eq_true_iff.mp grows
    exact followedEither (ihLeft growsLeft) (ihRight growsRight)
  | edge next ih =>
    cases next with
    | one accepts after => exact followedEdge accepts (ih grows)
    | _ => cases grows
  | opening next ih => exact followedOpening (ih grows)
  | closing next ih => exact followedClosing (ih grows)
  | lacking ahead next ihAhead ih => cases grows
  | again next ih => cases grows

end

theorem scanMatched {p : Pattern} {before : Char} {text : List Char} {t : Trail}
    (matched : p.matchAt? before text = some t) :
    ∃ more, p.scan 0 before text = t.found text :: more := by
  cases text with
  | nil => exact ⟨[], by rw [scan, matched]; rfl⟩
  | cons c rest => exact ⟨_, by rw [scan, matched]⟩

theorem matchInside {p : Pattern} {before : Char} {text : List Char} {t : Trail}
    (matched : p.matchAt? before text = some t) : t.taken ≤ text.length := by
  obtain ⟨part, taken⟩ := readsTaken p (runReads matched)
  rw [taken.length, Trail.start, Nat.zero_add]
  exact taken.starts.length_le

section
variable {p : Pattern} (followed : Followed p)
include followed

theorem matchFollowed (before : Char) (text more : List Char) :
    Lasts text.length (p.matchAt? before text) (p.matchAt? before (text ++ more)) := by
  have lasts := followed (t := .start before) ⟨rfl, rfl⟩ text more
  rwa [Trail.start, Nat.zero_add] at lasts

theorem occursFollowed (more : List Char) {text : List Char} (occurs : p.occursIn text = true) :
    p.occursIn (text ++ more) = true := by
  rw [occursScan] at occurs ⊢
  generalize ' ' = before at occurs ⊢
  induction text generalizing before with
  | nil =>
    have lasts := matchFollowed followed before [] more
    cases matched : p.matchAt? before [] with
    | none =>
      rw [scan, matched] at occurs
      exact absurd rfl occurs
    | some t =>
      obtain ⟨v, found⟩ := lasts.kept ⟨t, matched⟩
      obtain ⟨others, scanned⟩ := scanMatched found
      rw [scanned]
      exact List.cons_ne_nil _ _
  | cons c rest ih =>
    have lasts := matchFollowed followed before (c :: rest) more
    cases found : p.matchAt? before (c :: rest ++ more) with
    | some v =>
      obtain ⟨others, scanned⟩ := scanMatched found
      rw [scanned]
      exact List.cons_ne_nil _ _
    | none =>
      cases matched : p.matchAt? before (c :: rest) with
      -- A match of the old text is still there, so the search cannot pass over this place.
      | some t =>
        obtain ⟨v, there⟩ := lasts.kept ⟨t, matched⟩
        cases found.symm.trans there
      | none =>
        rw [scan, matched] at occurs
        rw [List.cons_append] at found ⊢
        rw [scan, found]
        exact ih c occurs

theorem scanFollowed (filled : ¬p.Takes []) {R : List (List Char) → List (List Char) → Prop}
    (nothing : ∀ found, R [] found)
    (again : ∀ part found found', R found found' → R (part :: found) (part :: found'))
    (beyond : ∀ before text more v, p.matchAt? before (text ++ more) = some v →
      text.length < v.taken →
      ∀ found, R ((p.scan 0 before text).map Match.text) ((text ++ more).take v.taken :: found))
    (skip : Nat) (before : Char) (text more : List Char) :
    R ((p.scan skip before text).map Match.text)
      ((p.scan skip before (text ++ more)).map Match.text) := by
  induction text generalizing skip before with
  | nil =>
    have none : p.scan skip before [] = [] := by
      cases skip with
      | succ skip => rfl
      | zero =>
        cases matched : p.matchAt? before [] with
        | none => rw [scan, matched]; rfl
        | some t => exact absurd (by simpa [Trail.found] using matchAtTaken matched) filled
    rw [none]
    exact nothing _
  | cons c rest ih =>
    cases skip with
    | succ skip => exact ih skip c
    | zero =>
      have lasts := matchFollowed followed before (c :: rest) more
      cases found : p.matchAt? before (c :: rest ++ more) with
      | none =>
        cases matched : p.matchAt? before (c :: rest) with
        | some t =>
          obtain ⟨v, there⟩ := lasts.kept ⟨t, matched⟩
          cases found.symm.trans there
        | none =>
          rw [List.cons_append] at found ⊢
          rw [scan, scan, found, matched]
          exact ih 0 c
      | some v =>
        rcases lasts.same v found with ⟨u, matched, alike⟩ | farther
        · have inside := matchInside matched
          rw [alike.taken] at inside
          have part : (c :: rest ++ more).take v.taken = (c :: rest).take v.taken :=
            List.take_append_of_le_length inside
          rw [List.cons_append] at found part ⊢
          rw [scan, scan, found, matched]
          simp only [List.map_cons, Trail.found, alike.taken, part]
          exact again _ _ _ (ih _ c)
        -- The match goes on beyond the old end and takes the place of all that was found from here
        -- on.
        · obtain ⟨others, scanned⟩ := scanMatched found
          rw [scanned]
          exact beyond before (c :: rest) more v found farther _

end

/-- Where a match goes on beyond the old end, nothing was found before. -/
def Quiet (p : Pattern) : Prop :=
  ∀ before text more v, p.matchAt? before (text ++ more) = some v → text.length < v.taken →
    p.scan 0 before text = []

/-- Where a match goes on beyond the old end, one match at most was found before. -/
def Single (p : Pattern) : Prop :=
  ∀ before text more v, p.matchAt? before (text ++ more) = some v → text.length < v.taken →
    (p.scan 0 before text).length ≤ 1

section
variable {p : Pattern}

theorem quietSingle (quiet : Quiet p) : Single p := by
  intro before text more v found farther
  rw [quiet before text more v found farther]
  exact Nat.zero_le 1

theorem findAllFollowed (followed : Followed p) (filled : ¬p.Takes []) (quiet : Quiet p)
    (text more : List Char) : p.findAll text <+: p.findAll (text ++ more) := by
  simp only [findAll, matchesScan]
  refine scanFollowed followed filled (R := (· <+: ·)) (fun _ => List.nil_prefix)
    (fun _ _ _ => (List.prefix_cons_inj _).mpr) (fun before text more v found farther _ => ?_)
    0 ' ' text more
  rw [quiet before text more v found farther]
  exact List.nil_prefix

theorem countFollowed (followed : Followed p) (filled : ¬p.Takes []) (single : Single p)
    (text more : List Char) : p.count text ≤ p.count (text ++ more) := by
  rw [countScan, countScan, ← List.length_map (f := Match.text),
    ← List.length_map (f := Match.text)]
  refine scanFollowed followed filled (R := fun found found' => found.length ≤ found'.length)
    (fun _ => Nat.zero_le _) (fun _ _ _ => Nat.succ_le_succ)
    (fun before text more v found farther others => ?_) 0 ' ' text more
  rw [List.length_map, List.length_cons]
  exact Nat.le_trans (single before text more v found farther) (Nat.le_add_left ..)

end

end PageAudit.Pattern
