import PageAudit.Pattern.Basic
/-!
What a match is made of. A run finds a match exactly where the pieces of its pattern can read the
text one after the other, and whatever stands around a match, its text is one that they take.
-/
namespace PageAudit.Pattern

def Trail.over (t : Trail) (passed : List Char) : Trail := passed.foldl Trail.step t

/-- The ways in which a pattern can read a text, each with the trail that it leaves. -/
def Reads : Pattern → Trail → List Char → Trail → Prop
  | done, t, _, u => u = t
  | one accepts next, t, text, u =>
    ∃ c rest, text = c :: rest ∧ accepts c = true ∧ next.Reads (t.step c) rest u
  | many accepts next, t, text, u =>
    ∃ passed rest, text = passed ++ rest ∧ (∀ c ∈ passed, accepts c = true) ∧
      next.Reads (t.over passed) rest u
  | few accepts next, t, text, u =>
    ∃ passed rest, text = passed ++ rest ∧ (∀ c ∈ passed, accepts c = true) ∧
      next.Reads (t.over passed) rest u
  | either left right, t, text, u => left.Reads t text u ∨ right.Reads t text u
  | lacking ahead next, t, text, u => (¬∃ v, ahead.Reads t text v) ∧ next.Reads t text u
  | edge next, t, text, u => atEdge t text = true ∧ next.Reads t text u
  | opening next, t, text, u =>
    next.Reads { t with groupText := text, groupStart := t.taken } text u
  | closing next, t, text, u => next.Reads { t with groupLength := t.taken - t.groupStart } text u
  | again next, t, text, u =>
    ∃ passed rest, text = passed ++ rest ∧ reread t.group t text = some (t.over passed, rest) ∧
      next.Reads (t.over passed) rest u

/-- The texts that a pattern can take. What it only looks at is left aside. -/
def Takes : Pattern → List Char → Prop
  | done, text => text = []
  | one accepts next, text => ∃ c rest, text = c :: rest ∧ accepts c = true ∧ next.Takes rest
  | many accepts next, text =>
    ∃ passed rest, text = passed ++ rest ∧ (∀ c ∈ passed, accepts c = true) ∧ next.Takes rest
  | few accepts next, text =>
    ∃ passed rest, text = passed ++ rest ∧ (∀ c ∈ passed, accepts c = true) ∧ next.Takes rest
  | either left right, text => left.Takes text ∨ right.Takes text
  | lacking _ next, text => next.Takes text
  | edge next, text => next.Takes text
  | opening next, text => next.Takes text
  | closing next, text => next.Takes text
  | again next, text => ∃ passed rest, text = passed ++ rest ∧ next.Takes rest

structure Taken (kind : List Char → Prop) (t u : Trail) (text part : List Char) : Prop where
  starts : part <+: text
  length : u.taken = t.taken + part.length
  kind : kind part

section
variable {accepts : Char → Bool} {t u : Trail} {text : List Char}

theorem Trail.stepTaken (t : Trail) (c : Char) : (t.step c).taken = t.taken + 1 := rfl

theorem Trail.overTaken (t : Trail) (passed : List Char) :
    (t.over passed).taken = t.taken + passed.length := by
  induction passed generalizing t with
  | nil => rfl
  | cons c rest ih =>
    have after := ih (t.step c)
    rw [stepTaken] at after
    rw [List.length_cons, Nat.add_comm rest.length, ← Nat.add_assoc]
    exact after

theorem runsReached {shorter : List Place} {place : Place} :
    place ∈ runs accepts shorter t text ↔ place ∈ shorter ∨
      ∃ passed, text = passed ++ place.2 ∧ place.1 = t.over passed ∧
        ∀ c ∈ passed, accepts c = true := by
  induction text generalizing shorter t with
  | nil =>
    rw [runs, List.mem_cons, or_comm]
    refine or_congr_right ⟨?_, ?_⟩
    · rintro rfl
      exact ⟨[], rfl, rfl, nofun⟩
    · rintro ⟨passed, split, reached, -⟩
      obtain ⟨rfl, none⟩ := List.append_eq_nil_iff.mp split.symm
      exact Prod.ext reached none
  | cons c rest ih =>
    -- A run is empty, or it is one accepted character and a run behind that character.
    have here : (∃ passed, c :: rest = passed ++ place.2 ∧ place.1 = t.over passed ∧
        ∀ c ∈ passed, accepts c = true) ↔ place = (t, c :: rest) ∨ (accepts c = true ∧
          ∃ passed, rest = passed ++ place.2 ∧ place.1 = (t.step c).over passed ∧
            ∀ c ∈ passed, accepts c = true) := by
      constructor
      · rintro ⟨passed, split, reached, all⟩
        cases passed with
        | nil => exact .inl (Prod.ext reached split.symm)
        | cons d passed =>
          obtain ⟨rfl, after⟩ := List.cons.inj split
          obtain ⟨accepted, others⟩ := List.forall_mem_cons.mp all
          exact .inr ⟨accepted, passed, after, reached, others⟩
      · rintro (rfl | ⟨accepted, passed, split, reached, all⟩)
        · exact ⟨[], rfl, rfl, nofun⟩
        · exact ⟨c :: passed, by rw [split, List.cons_append], reached,
            List.forall_mem_cons.mpr ⟨accepted, all⟩⟩
    rw [here, runs]
    split
    · rename_i accepted
      rw [ih, List.mem_cons, or_assoc, or_left_comm]
      simp only [accepted, true_and]
    · rename_i refused
      rw [List.mem_cons, or_comm]
      simp only [refused, Bool.false_eq_true, false_and, or_false]

theorem manyReached {next : Pattern} (matched : (many accepts next).run t text = some u) :
    ∃ passed rest, text = passed ++ rest ∧ (∀ c ∈ passed, accepts c = true) ∧
      next.run (t.over passed) rest = some u := by
  obtain ⟨place, member, found⟩ := List.exists_of_findSome?_eq_some matched
  rcases runsReached.mp member with older | ⟨passed, split, reached, all⟩
  · cases older
  · rw [reached] at found
    exact ⟨passed, place.2, split, all, found⟩

theorem soonestReads {goal : Trail → List Char → Option Trail}
    (reached : soonest accepts goal t text = some u) :
    ∃ passed rest, text = passed ++ rest ∧ (∀ c ∈ passed, accepts c = true) ∧
      goal (t.over passed) rest = some u := by
  induction text generalizing t with
  | nil => exact ⟨[], [], rfl, nofun, reached⟩
  | cons c rest ih =>
    unfold soonest at reached
    split at reached
    · rename_i atOnce
      obtain rfl := Option.some.inj reached
      exact ⟨[], c :: rest, rfl, nofun, atOnce⟩
    · split at reached
      · rename_i accepted
        obtain ⟨passed, after, split, all, found⟩ := ih reached
        exact ⟨c :: passed, after, by rw [split, List.cons_append],
          List.forall_mem_cons.mpr ⟨accepted, all⟩, found⟩
      · cases reached

theorem readsSoonest {goal : Trail → List Char → Option Trail} {passed rest : List Char}
    (all : ∀ c ∈ passed, accepts c = true) (found : ∃ u, goal (t.over passed) rest = some u) :
    ∃ u, soonest accepts goal t (passed ++ rest) = some u := by
  induction passed generalizing t with
  | nil =>
    obtain ⟨u, atOnce⟩ := found
    rw [List.nil_append]
    cases rest with
    | nil => exact ⟨u, atOnce⟩
    | cons c rest =>
      refine ⟨u, ?_⟩
      have atOnce : goal t (c :: rest) = some u := atOnce
      rw [soonest, atOnce]
  | cons c passed ih =>
    obtain ⟨accepted, all⟩ := List.forall_mem_cons.mp all
    rw [List.cons_append, soonest]
    cases goal t (c :: (passed ++ rest)) with
    | some v => exact ⟨v, rfl⟩
    | none =>
      rw [if_pos accepted]
      exact ih all found

theorem rereadReached {group : List Char} {place : Place}
    (reached : reread group t text = some place) :
    ∃ passed, text = passed ++ place.2 ∧ place.1 = t.over passed := by
  induction group generalizing t text with
  | nil =>
    obtain rfl := Option.some.inj reached
    exact ⟨[], rfl, rfl⟩
  | cons g group ih =>
    cases text with
    | nil => cases reached
    | cons c rest =>
      unfold reread at reached
      split at reached
      · obtain ⟨passed, split, trail⟩ := ih reached
        exact ⟨c :: passed, by rw [split, List.cons_append], trail⟩
      · cases reached

structure Decides (p : Pattern) : Prop where
  sound : ∀ {t text u}, p.run t text = some u → p.Reads t text u
  complete : ∀ {t text u}, p.Reads t text u → ∃ v, p.run t text = some v

namespace Decides
variable {next : Pattern}

theorem one (rest : Decides next) : Decides (one accepts next) where
  sound := by
    intro t text u matched
    cases text with
    | nil => cases matched
    | cons c after =>
      rw [run] at matched
      split at matched
      · rename_i accepted
        exact ⟨c, after, rfl, accepted, rest.sound matched⟩
      · cases matched
  complete := by
    rintro t _ u ⟨c, after, rfl, accepted, reads⟩
    rw [run, if_pos accepted]
    exact rest.complete reads

theorem many (rest : Decides next) : Decides (many accepts next) where
  sound := by
    intro t text u matched
    obtain ⟨passed, after, split, all, found⟩ := manyReached matched
    exact ⟨passed, after, split, all, rest.sound found⟩
  complete := by
    rintro t _ u ⟨passed, after, rfl, all, reads⟩
    have member : (t.over passed, after) ∈ runs accepts [] t (passed ++ after) :=
      runsReached.mpr (.inr ⟨passed, rfl, rfl, all⟩)
    obtain ⟨v, found⟩ := rest.complete reads
    rw [run, ← Option.isSome_iff_exists, List.findSome?_isSome_iff]
    exact ⟨_, member, Option.isSome_iff_exists.mpr ⟨v, found⟩⟩

theorem few (rest : Decides next) : Decides (few accepts next) where
  sound := by
    intro t text u matched
    obtain ⟨passed, after, split, all, found⟩ := soonestReads matched
    exact ⟨passed, after, split, all, rest.sound found⟩
  complete := by
    rintro t _ u ⟨passed, after, rfl, all, reads⟩
    exact readsSoonest all (rest.complete reads)

theorem either {left right : Pattern} (onLeft : Decides left) (onRight : Decides right) :
    Decides (either left right) where
  sound := by
    intro t text u matched
    rw [run] at matched
    split at matched
    · rename_i found
      obtain rfl := Option.some.inj matched
      exact .inl (onLeft.sound found)
    · exact .inr (onRight.sound matched)
  complete := by
    intro t text u reads
    rw [run]
    cases found : left.run t text with
    | some v => exact ⟨v, rfl⟩
    | none =>
      rcases reads with reads | reads
      · obtain ⟨v, other⟩ := onLeft.complete reads
        cases found.symm.trans other
      · exact onRight.complete reads

theorem foundExactly {p : Pattern} (decides : Decides p) :
    (p.run t text).isSome = true ↔ ∃ v, p.Reads t text v := by
  rw [Option.isSome_iff_exists]
  exact ⟨fun ⟨v, found⟩ => ⟨v, decides.sound found⟩, fun ⟨_, reads⟩ => decides.complete reads⟩

/- That nothing is found ahead says that nothing reads it: either half needs both of it. -/
theorem lacking {ahead : Pattern} (forward : Decides ahead) (rest : Decides next) :
    Decides (lacking ahead next) where
  sound := by
    intro t text u matched
    rw [run] at matched
    split at matched
    · cases matched
    · rename_i unread
      exact ⟨fun reads => unread (forward.foundExactly.mpr reads), rest.sound matched⟩
  complete := by
    rintro t text u ⟨unread, reads⟩
    rw [run, if_neg fun found => unread (forward.foundExactly.mp found)]
    exact rest.complete reads

theorem edge (rest : Decides next) : Decides (edge next) where
  sound := by
    intro t text u matched
    rw [run] at matched
    split at matched
    · rename_i there
      exact ⟨there, rest.sound matched⟩
    · cases matched
  complete := by
    rintro t text u ⟨there, reads⟩
    rw [run, if_pos there]
    exact rest.complete reads

theorem again (rest : Decides next) : Decides (again next) where
  sound := by
    intro t text u matched
    rw [run] at matched
    split at matched
    · rename_i place reached
      obtain ⟨passed, split, trail⟩ := rereadReached reached
      obtain ⟨v, after⟩ := place
      obtain rfl : v = t.over passed := trail
      exact ⟨passed, after, split, reached, rest.sound matched⟩
    · cases matched
  complete := by
    rintro t text u ⟨passed, after, -, reached, reads⟩
    rw [run, reached]
    exact rest.complete reads

end Decides

theorem runDecides (p : Pattern) : Decides p := by
  induction p with
  | done => exact ⟨fun matched => (Option.some.inj matched).symm, fun _ => ⟨_, rfl⟩⟩
  | one accepts next rest => exact rest.one
  | many accepts next rest => exact rest.many
  | few accepts next rest => exact rest.few
  | either left right onLeft onRight => exact onLeft.either onRight
  | lacking ahead next forward rest => exact forward.lacking rest
  | edge next rest => exact rest.edge
  | opening next rest => exact ⟨rest.sound, rest.complete⟩
  | closing next rest => exact ⟨rest.sound, rest.complete⟩
  | again next rest => exact rest.again

theorem runReads {p : Pattern} (matched : p.run t text = some u) : p.Reads t text u :=
  (runDecides p).sound matched

theorem readsRun {p : Pattern} (reads : p.Reads t text u) : ∃ v, p.run t text = some v :=
  (runDecides p).complete reads

theorem Taken.after {kind next : List Char → Prop} {rest passed part : List Char}
    (taken : Taken next (t.over passed) u rest part) (split : text = passed ++ rest)
    (both : next part → kind (passed ++ part)) : Taken kind t u text (passed ++ part) where
  starts := by
    rw [split]
    exact (List.prefix_append_right_inj passed).mpr taken.starts
  length := by rw [taken.length, Trail.overTaken, List.length_append, Nat.add_assoc]
  kind := both taken.kind

theorem readsTaken (p : Pattern) (reads : p.Reads t text u) :
    ∃ part, Taken p.Takes t u text part := by
  induction p generalizing t text with
  | done =>
    obtain rfl : u = t := reads
    exact ⟨[], List.nil_prefix, rfl, rfl⟩
  | one accepts next ih =>
    obtain ⟨c, rest, rfl, accepted, reads⟩ := reads
    obtain ⟨part, taken⟩ := ih reads
    exact ⟨[c] ++ part, taken.after rfl fun takes => ⟨c, part, rfl, accepted, takes⟩⟩
  | many accepts next ih =>
    obtain ⟨passed, rest, split, all, reads⟩ := reads
    obtain ⟨part, taken⟩ := ih reads
    exact ⟨passed ++ part, taken.after split fun takes => ⟨passed, part, rfl, all, takes⟩⟩
  | few accepts next ih =>
    obtain ⟨passed, rest, split, all, reads⟩ := reads
    obtain ⟨part, taken⟩ := ih reads
    exact ⟨passed ++ part, taken.after split fun takes => ⟨passed, part, rfl, all, takes⟩⟩
  | either left right ihLeft ihRight =>
    rcases reads with reads | reads
    · obtain ⟨part, taken⟩ := ihLeft reads
      exact ⟨part, taken.starts, taken.length, .inl taken.kind⟩
    · obtain ⟨part, taken⟩ := ihRight reads
      exact ⟨part, taken.starts, taken.length, .inr taken.kind⟩
  | lacking ahead next ihAhead ih => exact ih reads.2
  | edge next ih => exact ih reads.2
  | opening next ih =>
    obtain ⟨part, taken⟩ := ih reads
    exact ⟨part, taken.starts, taken.length, taken.kind⟩
  | closing next ih =>
    obtain ⟨part, taken⟩ := ih reads
    exact ⟨part, taken.starts, taken.length, taken.kind⟩
  | again next ih =>
    obtain ⟨passed, rest, split, -, reads⟩ := reads
    obtain ⟨part, taken⟩ := ih reads
    exact ⟨passed ++ part, taken.after split fun takes => ⟨passed, part, rfl, takes⟩⟩

end

theorem matchAtTaken {p : Pattern} {before : Char} {text : List Char} {t : Trail}
    (matched : p.matchAt? before text = some t) : p.Takes (t.found text).text := by
  obtain ⟨part, taken⟩ := readsTaken p (runReads matched)
  have length : t.taken = part.length := by rw [taken.length, Trail.start, Nat.zero_add]
  have whole : part = text.take part.length := List.prefix_iff_eq_take.mp taken.starts
  simp only [Trail.found, length, ← whole]
  exact taken.kind

end PageAudit.Pattern
