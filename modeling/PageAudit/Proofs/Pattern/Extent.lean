import PageAudit.Pattern.Basic
import PageAudit.Proofs.Pattern.Followed
/-!
How far matches go. A match that ends at the first place where it can leaves no other one behind its
end, and one that goes on as long as it can leaves none between its own end and the last place. Where
every match ends as early as it can, no more texts of its kind fit into a row than are found.
-/
namespace PageAudit.Pattern

def ones (kinds : List (Char → Bool)) (next : Pattern) : Pattern := kinds.foldr one next

def lettered (word : String) : List (Char → Bool) :=
  word.toList.map fun c => Text.hasKey (Text.caseKey c)

def avoids (d : Char) : Pattern → Bool
  | done => true
  | one accepts next | many accepts next | few accepts next => !accepts d && next.avoids d
  | either left right => left.avoids d && right.avoids d
  | lacking _ next | edge next | opening next | closing next => next.avoids d
  | again _ => false

def reading : Pattern → Bool
  | done => true
  | one _ next | many _ next | few _ next | opening next | closing next => next.reading
  | either left right => left.reading && right.reading
  | lacking _ _ | edge _ | again _ => false

def Nearest (p : Pattern) : Prop :=
  ∀ {before text t}, p.matchAt? before text = some t → ∀ {far part rest},
    text = far ++ (part ++ rest) → p.Takes part → t.taken ≤ far.length + part.length

inductive InRow (p : Pattern) : Nat → List Char → Prop where
  | none (text : List Char) : InRow p 0 text
  | next {part rest : List Char} {n : Nat} (far : List Char) (takes : p.Takes part)
      (later : InRow p n rest) : InRow p (n + 1) (far ++ (part ++ rest))

section
variable {p next : Pattern} {accepts : Char → Bool} {kinds : List (Char → Bool)} {d : Char}
variable {t u : Trail} {text passed part rest : List Char}

theorem lettersOnes (word : String) (next : Pattern) :
    letters word next = ones (lettered word) next :=
  List.foldr_map.symm

theorem oneFilled : ¬(one accepts next).Takes [] := by
  rintro ⟨c, rest, empty, -⟩
  cases empty

theorem takesAvoids (free : p.avoids d = true) (takes : p.Takes text) : d ∉ text := by
  have others : ∀ {accepts : Char → Bool} {passed : List Char}, accepts d = false →
      (∀ c ∈ passed, accepts c = true) → d ∉ passed := by
    intro accepts passed refused all member
    rw [all d member] at refused
    cases refused
  induction p generalizing text with
  | done =>
    obtain rfl : text = [] := takes
    exact List.not_mem_nil
  | one accepts next ih =>
    obtain ⟨c, rest, rfl, accepted, takes⟩ := takes
    simp only [avoids, Bool.and_eq_true, Bool.not_eq_true'] at free
    exact List.not_mem_append (others free.1 (List.forall_mem_singleton.mpr accepted))
      (ih free.2 takes)
  | many accepts next ih =>
    obtain ⟨passed, rest, rfl, all, takes⟩ := takes
    simp only [avoids, Bool.and_eq_true, Bool.not_eq_true'] at free
    exact List.not_mem_append (others free.1 all) (ih free.2 takes)
  | few accepts next ih =>
    obtain ⟨passed, rest, rfl, all, takes⟩ := takes
    simp only [avoids, Bool.and_eq_true, Bool.not_eq_true'] at free
    exact List.not_mem_append (others free.1 all) (ih free.2 takes)
  | either left right ihLeft ihRight =>
    obtain ⟨freeLeft, freeRight⟩ := Bool.and_eq_true_iff.mp free
    rcases takes with takes | takes
    · exact ihLeft freeLeft takes
    · exact ihRight freeRight takes
  | lacking ahead next ihAhead ih => exact ih free takes
  | edge next ih => exact ih free takes
  | opening next ih => exact ih free takes
  | closing next ih => exact ih free takes
  -- What a group held is not known here, so no character is ruled out.
  | again next ih => cases free

theorem takesReads (reads : p.reading = true) (takes : p.Takes part) (t : Trail)
    (rest : List Char) : ∃ u, p.Reads t (part ++ rest) u := by
  induction p generalizing part t with
  | done =>
    obtain rfl : part = [] := takes
    exact ⟨t, rfl⟩
  | one accepts next ih =>
    obtain ⟨c, part, rfl, accepted, takes⟩ := takes
    obtain ⟨u, after⟩ := ih reads takes (t.step c)
    exact ⟨u, c, part ++ rest, rfl, accepted, after⟩
  | many accepts next ih =>
    obtain ⟨passed, part, rfl, all, takes⟩ := takes
    obtain ⟨u, after⟩ := ih reads takes (t.over passed)
    exact ⟨u, passed, part ++ rest, List.append_assoc .., all, after⟩
  | few accepts next ih =>
    obtain ⟨passed, part, rfl, all, takes⟩ := takes
    obtain ⟨u, after⟩ := ih reads takes (t.over passed)
    exact ⟨u, passed, part ++ rest, List.append_assoc .., all, after⟩
  | either left right ihLeft ihRight =>
    obtain ⟨readsLeft, readsRight⟩ := Bool.and_eq_true_iff.mp reads
    rcases takes with takes | takes
    · obtain ⟨u, after⟩ := ihLeft readsLeft takes t
      exact ⟨u, .inl after⟩
    · obtain ⟨u, after⟩ := ihRight readsRight takes t
      exact ⟨u, .inr after⟩
  | opening next ih => exact ih reads takes _
  | closing next ih => exact ih reads takes _
  | lacking ahead next ihAhead ih => cases reads
  | edge next ih => cases reads
  | again next ih => cases reads

theorem takesOnes : (ones kinds next).Takes text ↔
    ∃ head rest, text = head ++ rest ∧ (ones kinds done).Takes head ∧ next.Takes rest := by
  induction kinds generalizing text with
  | nil =>
    constructor
    · exact fun takes => ⟨[], text, rfl, rfl, takes⟩
    · rintro ⟨head, rest, rfl, nothing, takes⟩
      obtain rfl : head = [] := nothing
      exact takes
  | cons accepts kinds ih =>
    constructor
    · rintro ⟨c, after, rfl, accepted, takes⟩
      obtain ⟨head, rest, rfl, takesHead, takesRest⟩ := ih.mp takes
      exact ⟨c :: head, rest, rfl, ⟨c, head, rfl, accepted, takesHead⟩, takesRest⟩
    · rintro ⟨head, rest, rfl, ⟨c, after, rfl, accepted, takesHead⟩, takesRest⟩
      exact ⟨c, after ++ rest, rfl, accepted, ih.mpr ⟨after, rest, rfl, takesHead, takesRest⟩⟩

theorem runOnes (matched : (ones kinds next).run t text = some u) :
    ∃ head rest, text = head ++ rest ∧ (ones kinds done).Takes head ∧
      next.run (t.over head) rest = some u := by
  induction kinds generalizing t text with
  | nil => exact ⟨[], text, rfl, rfl, matched⟩
  | cons accepts kinds ih =>
    cases text with
    | nil => cases matched
    | cons c after =>
      change (if accepts c then (ones kinds next).run (t.step c) after else none) = _ at matched
      split at matched
      · rename_i accepted
        obtain ⟨head, rest, rfl, takesHead, ran⟩ := ih matched
        exact ⟨c :: head, rest, rfl, ⟨c, head, rfl, accepted, takesHead⟩, ran⟩
      · cases matched

theorem followedOnes (kinds : List (Char → Bool)) (after : Followed next) :
    Followed (ones kinds next) := by
  induction kinds with
  | nil => exact after
  | cons accepts kinds ih => exact followedOne accepts ih

theorem onesLength (takes : (ones kinds done).Takes text) : text.length = kinds.length := by
  induction kinds generalizing text with
  | nil =>
    obtain rfl : text = [] := takes
    rfl
  | cons accepts kinds ih =>
    obtain ⟨c, rest, rfl, -, takes⟩ := takes
    rw [List.length_cons, List.length_cons, ih takes]

theorem onesReading (kinds : List (Char → Bool)) : (ones kinds done).reading = true := by
  induction kinds with
  | nil => rfl
  | cons accepts kinds ih => exact ih

/- Going on is tried first, so a match goes on at least as far as it could have ended. -/
theorem manyLongest (matched : (many accepts next).run t (passed ++ rest) = some u)
    (all : ∀ c ∈ passed, accepts c = true) (goes : ∃ v, next.run (t.over passed) rest = some v) :
    ∃ far after, passed ++ rest = far ++ after ∧ passed.length ≤ far.length ∧
      (∀ c ∈ far, accepts c = true) ∧ next.run (t.over far) after = some u := by
  induction passed generalizing t with
  | nil =>
    obtain ⟨far, after, whole, accepted, ended⟩ := manyReached matched
    exact ⟨far, after, whole, Nat.zero_le _, accepted, ended⟩
  | cons c passed ih =>
    obtain ⟨accepted, others⟩ := List.forall_mem_cons.mp all
    obtain ⟨v, farther⟩ : ∃ v, (many accepts next).run (t.step c) (passed ++ rest) = some v := by
      obtain ⟨v, found⟩ := goes
      exact readsRun ⟨passed, rest, rfl, others, runReads found⟩
    rw [List.cons_append, runManyStep, if_pos accepted, farther, Option.some_or] at matched
    obtain ⟨far, after, whole, long, within, ended⟩ := ih (farther.trans matched) others goes
    exact ⟨c :: far, after, congrArg (c :: ·) whole, Nat.succ_le_succ long,
      List.forall_mem_cons.mpr ⟨accepted, within⟩, ended⟩

theorem manyFarthest (matched : (many accepts next).run t (passed ++ rest) = some u)
    (all : ∀ c ∈ passed, accepts c = true) (goes : ∃ v, next.run (t.over passed) rest = some v) :
    t.taken + passed.length ≤ u.taken := by
  obtain ⟨far, after, -, long, -, ended⟩ := manyLongest matched all goes
  have forward := runForward ended
  rw [Trail.overTaken] at forward
  omega

theorem fewNearest (matched : (few accepts next).run t (passed ++ rest) = some u)
    (goes : ∃ v, next.run (t.over passed) rest = some v) :
    ∃ near after, passed ++ rest = near ++ after ∧ near.length ≤ passed.length ∧
      next.run (t.over near) after = some u := by
  induction passed generalizing t with
  | nil =>
    obtain ⟨v, found⟩ := goes
    refine ⟨[], rest, rfl, Nat.le_refl 0, ?_⟩
    rw [List.nil_append] at matched
    cases rest with
    | nil => exact matched
    | cons c rest =>
      have here : next.run t (c :: rest) = some v := found
      rw [runFewStep, here, Option.some_or] at matched
      exact here.trans matched
  | cons c passed ih =>
    rw [List.cons_append, runFewStep] at matched
    rcases Option.or_eq_some_iff.mp matched with here | ⟨-, farther⟩
    · exact ⟨[], _, rfl, Nat.zero_le _, here⟩
    · split at farther
      · obtain ⟨near, after, split, short, found⟩ := ih farther goes
        exact ⟨c :: near, after, congrArg (c :: ·) split, Nat.succ_le_succ short, found⟩
      · cases farther

theorem firstBefore {before after before' after' : List Char} (none : d ∉ before)
    (same : before ++ d :: after = before' ++ d :: after') : before.length ≤ before'.length := by
  refine Nat.le_of_not_lt fun longer => none ?_
  have inside : before' ++ [d] <+: before := by
    refine List.prefix_of_prefix_length_le ?_ (List.prefix_append before (d :: after)) ?_
    · exact ⟨after', by rw [same, List.append_assoc, List.singleton_append]⟩
    · rw [List.length_append, List.length_singleton]
      exact longer
  exact inside.subset (List.mem_append_right _ (List.mem_singleton_self d))

def EndsAt (kind : Char → Bool) (text : List Char) : Prop :=
  ∃ start last, text = start ++ [last] ∧ kind last = true ∧ ∀ c ∈ start, kind c = false

theorem endedNearest (kind : Char → Bool) (ended : ∀ part, p.Takes part → EndsAt kind part) :
    Nearest p := by
  intro before text t matched far part rest split takes
  obtain ⟨whole, taken⟩ := readsTaken p (runReads matched)
  obtain ⟨start, last, rfl, -, none⟩ := ended whole taken.kind
  obtain ⟨start', last', rfl, kindly, -⟩ := ended part takes
  have length : t.taken = start.length + 1 := by
    rw [taken.length, Trail.start, Nat.zero_add, List.length_append, List.length_singleton]
  refine Nat.le_of_not_lt fun farther => ?_
  -- The last character of the other text would lie before the end of the match.
  have inside : far ++ (start' ++ [last']) <+: start := by
    refine List.prefix_of_prefix_length_le ?_ ((List.prefix_append ..).trans taken.starts) ?_
    · exact ⟨rest, by rw [split, List.append_assoc far]⟩
    · rw [List.length_append]
      omega
  have member : last' ∈ start := inside.subset (by simp)
  rw [none last' member] at kindly
  cases kindly

theorem bracketEnds (free : (ones kinds (many accepts done)).avoids d = true)
    (takes : (ones kinds (many accepts (one (· == d) done))).Takes text) :
    EndsAt (· == d) text := by
  obtain ⟨head, after, rfl, takesHead, tagged, after, rfl, all, c, after, rfl, bracket, rfl⟩ :=
    takesOnes.mp takes
  have none : d ∉ head ++ tagged :=
    takesAvoids free (takesOnes.mpr ⟨head, tagged, rfl, takesHead, tagged, [], by simp, all, rfl⟩)
  refine ⟨head ++ tagged, c, (List.append_assoc ..).symm, bracket, fun e member => ?_⟩
  exact beq_eq_false_iff_ne.mpr fun same => none (same ▸ member)

theorem closedNearest {ahead : Pattern} {ends : List (Char → Bool)}
    (free : (ones kinds (many accepts done)).avoids d = true) :
    Nearest (ones kinds (lacking ahead (many accepts (one (· == d)
      (few anyChar (ones ends done)))))) := by
  intro before text t matched far part rest split takes
  obtain ⟨head, after, rfl, takesHead, ran⟩ := runOnes matched
  rw [run] at ran
  split at ran
  · cases ran
  obtain ⟨tagged, after, rfl, all, ran⟩ := manyReached ran
  obtain ⟨c, body, rfl, bracket, -⟩ := runReads ran
  rw [run, if_pos bracket] at ran
  obtain ⟨head', after', rfl, -, tagged', after', rfl, -, c', after', rfl, bracket', body', word',
    rfl, -, takesEnd⟩ := takesOnes.mp takes
  rw [beq_iff_eq.mp bracket, beq_iff_eq.mp bracket'] at split
  have same : (head ++ tagged) ++ d :: body =
      (far ++ (head' ++ tagged')) ++ d :: (body' ++ (word' ++ rest)) := by
    simpa using split
  have none : d ∉ head ++ tagged :=
    takesAvoids free (takesOnes.mpr ⟨head, tagged, rfl, takesHead, tagged, [], by simp, all, rfl⟩)
  -- The match has its bracket at the first place where there is one.
  have first := firstBefore none same
  have lengths := congrArg List.length same
  obtain ⟨between, rfl⟩ : body' ++ (word' ++ rest) <:+ body := by
    refine List.suffix_of_suffix_length_le ?_ ((List.suffix_cons d body).trans
      (List.suffix_append (head ++ tagged) _)) ?_
    · rw [same]
      exact (List.suffix_cons ..).trans (List.suffix_append ..)
    · simp only [List.length_append, List.length_cons] at lengths first ⊢
      omega
  rw [← List.append_assoc between] at ran
  -- From the bracket on the ending is at its first place, so not behind the other one.
  obtain ⟨near, after, -, short, ended⟩ :=
    fewNearest ran (readsRun (takesReads (onesReading ends) takesEnd _ rest).choose_spec)
  obtain ⟨word, after, rfl, takesWord, reached⟩ := runOnes ended
  obtain rfl := Option.some.inj reached
  simp only [Trail.overTaken, Trail.stepTaken, Trail.start, onesLength takesWord,
    onesLength takesEnd, List.length_append, List.length_cons] at lengths short ⊢
  omega

/- In a text without anything that stops it, a match goes on beyond the start of any other one. -/
theorem farthestPassed (reads : next.reading = true) (filled : kinds ≠ [])
    {before : Char} {far part rest : List Char}
    (matched : (ones kinds (many accepts next)).matchAt? before (far ++ (part ++ rest)) = some t)
    (all : ∀ c ∈ far ++ (part ++ rest), accepts c = true)
    (takes : (ones kinds (many accepts next)).Takes part) : far.length < t.taken := by
  obtain ⟨head', after', rfl, takesHead', passed', ending, rfl, -, takesEnd⟩ := takesOnes.mp takes
  obtain ⟨head, after, split, takesHead, ran⟩ := runOnes matched
  have same : head.length = head'.length := by rw [onesLength takesHead, onesLength takesHead']
  obtain ⟨passed, whole⟩ : head <+: far ++ (head' ++ passed') := by
    refine List.prefix_of_prefix_length_le (List.prefix_append head after) ?_ ?_
    · exact ⟨ending ++ rest, by simpa using split⟩
    · simp only [List.length_append]
      omega
  obtain rfl : after = passed ++ (ending ++ rest) := by
    have same : head ++ after = head ++ (passed ++ (ending ++ rest)) := by
      rw [← split, ← List.append_assoc head, whole]
      simp
    exact List.append_cancel_left same
  have goes := manyFarthest ran (fun c member => all c ?_)
    (readsRun (takesReads reads takesEnd _ rest).choose_spec)
  · have one : 0 < head'.length := by
      rw [onesLength takesHead']
      exact List.length_pos_iff.mpr filled
    have lengths := congrArg List.length whole
    simp only [Trail.overTaken, Trail.start, List.length_append] at goes lengths
    omega
  · rw [split]
    simp [member]

theorem farthestSingle (reads : next.reading = true) (filled : kinds ≠ [])
    (alike : ∀ part, (ones kinds (many accepts next)).Takes part → ∀ c ∈ part, accepts c = true) :
    Single (ones kinds (many accepts next)) := by
  generalize same : ones kinds (many accepts next) = p at alike ⊢
  have alone : ∀ before text, (∀ c ∈ text, accepts c = true) →
      (p.scan 0 before text).length ≤ 1 := by
    intro before text all
    induction text generalizing before with
    | nil =>
      rw [scan]
      cases p.matchAt? before [] <;> simp
    | cons c rest ih =>
      rw [scan]
      cases matched : p.matchAt? before (c :: rest) with
      | none => exact ih c fun d member => all d (List.mem_cons_of_mem c member)
      | some t =>
        -- A later match would start where the first one has not ended, since that goes on past its
        -- start.
        have last : p.scan (t.taken - 1) c rest = [] := by
          refine List.eq_nil_iff_forall_not_mem.mpr fun m member => ?_
          obtain ⟨takes, far, after, split⟩ := scanTaken member
          have whole : c :: rest =
              (c :: (rest.take (t.taken - 1) ++ far)) ++ (m.text ++ after) := by
            rw [List.cons_append, List.append_assoc, ← List.append_assoc far, split,
              List.take_append_drop]
          have inside := matchInside matched
          rw [whole] at matched all
          subst same
          have passed := farthestPassed reads filled matched all takes
          rw [List.length_cons, List.length_append, List.length_take] at passed
          rw [List.length_cons] at inside
          omega
        change (t.found (c :: rest) :: p.scan (t.taken - 1) c rest).length ≤ 1
        rw [last]
        exact Nat.le_refl 1
  intro before text more v found farther
  obtain ⟨part, taken⟩ := readsTaken p (runReads found)
  -- The old text lies within the match that goes beyond it, so it is all of one kind.
  have inside : text <+: part := by
    refine List.prefix_of_prefix_length_le (List.prefix_append text more) taken.starts ?_
    rw [taken.length, Trail.start, Nat.zero_add] at farther
    exact Nat.le_of_lt farther
  exact alone before text fun c member => alike part taken.kind c (inside.subset member)

theorem nearestQuiet (nearest : Nearest p) : Quiet p := by
  intro before text more v found farther
  refine List.eq_nil_iff_forall_not_mem.mpr fun m member => ?_
  obtain ⟨takes, far, after, split⟩ := scanTaken member
  rw [List.drop_zero] at split
  subst split
  rw [List.append_assoc, List.append_assoc] at found
  have early := nearest found rfl takes
  rw [List.length_append, List.length_append] at farther
  omega

theorem rowNext {n : Nat} (row : InRow p (n + 1) text) : ∃ far part rest,
    text = far ++ (part ++ rest) ∧ p.Takes part ∧ InRow p n rest := by
  cases row with
  | next far takes later => exact ⟨far, _, _, rfl, takes, later⟩

theorem rowBefore {n : Nat} {here : List Char} (row : InRow p n here) (behind : here <:+ text) :
    InRow p n text := by
  obtain ⟨before, rfl⟩ := behind
  cases row with
  | none => exact .none _
  | next far takes later =>
    rw [← List.append_assoc]
    exact .next (before ++ far) takes later

theorem rowScanned (nearest : Nearest p) (reads : p.reading = true) (filled : ¬p.Takes [])
    {n skip : Nat} (row : InRow p n (text.drop skip)) (before : Char) :
    n ≤ (p.scan skip before text).length := by
  induction text generalizing n skip before with
  | nil =>
    cases n with
    | zero => exact Nat.zero_le _
    | succ n =>
      rw [List.drop_nil] at row
      obtain ⟨far, part, rest, same, takes, -⟩ := rowNext row
      obtain ⟨-, empty⟩ := List.append_eq_nil_iff.mp same.symm
      obtain ⟨rfl, -⟩ := List.append_eq_nil_iff.mp empty
      exact absurd takes filled
  | cons c rest ih =>
    cases skip with
    | succ skip => exact ih row c
    | zero =>
      cases n with
      | zero => exact Nat.zero_le _
      | succ n =>
        obtain ⟨far, part, more, same, takes, later⟩ := rowNext row
        rw [List.drop_zero] at same
        rw [scan]
        cases matched : p.matchAt? before (c :: rest) with
        | none =>
          cases far with
          | nil =>
            -- The first text of the row starts here, so the pattern would have matched.
            obtain ⟨u, after⟩ := takesReads reads takes (.start before) more
            obtain ⟨v, found⟩ := readsRun after
            rw [same] at matched
            cases matched.symm.trans found
          | cons d far =>
            obtain ⟨rfl, rfl⟩ := List.cons.inj same
            exact ih (.next far takes later) c
        | some t =>
          -- The match ends before the first text of the row does, and leaves the others in a row.
          have early := nearest matched same takes
          have some : part ≠ [] := fun none => filled (none ▸ takes)
          refine Nat.succ_le_succ (ih (rowBefore later ?_) c)
          refine List.suffix_of_suffix_length_le ?_ ((List.drop_suffix _ _).trans
            (List.suffix_cons c rest)) ?_
          · rw [same, ← List.append_assoc]
            exact List.suffix_append _ _
          · have whole := congrArg List.length same
            have one := List.length_pos_iff.mpr some
            simp only [List.length_cons, List.length_append, List.length_drop] at whole ⊢
            omega

/- The texts that are read where the other pattern matches end before it does. -/
theorem rowFound {q : Pattern} (filled : ¬p.Takes [])
    (within : ∀ {before text u}, q.matchAt? before text = some u →
      ∃ v, p.Reads (.start before) text v ∧ v.taken ≤ u.taken)
    (skip : Nat) (before : Char) (text : List Char) :
    InRow p (q.scan skip before text).length (text.drop skip) := by
  induction text generalizing skip before with
  | nil =>
    cases skip with
    | succ skip => exact .none _
    | zero =>
      cases matched : q.matchAt? before [] with
      | none =>
        rw [scan, matched]
        exact .none _
      | some u =>
        obtain ⟨v, reads, -⟩ := within matched
        obtain ⟨part, taken⟩ := readsTaken p reads
        exact absurd (List.prefix_nil.mp taken.starts ▸ taken.kind) filled
  | cons c rest ih =>
    cases skip with
    | succ skip => exact ih skip c
    | zero =>
      rw [scan, List.drop_zero]
      cases matched : q.matchAt? before (c :: rest) with
      | none => exact rowBefore (ih 0 c) (List.suffix_cons c rest)
      | some u =>
        obtain ⟨v, reads, short⟩ := within matched
        obtain ⟨part, taken⟩ := readsTaken p reads
        obtain ⟨more, same⟩ := taken.starts
        have some : part ≠ [] := fun none => filled (none ▸ taken.kind)
        rw [← same]
        refine .next [] taken.kind (rowBefore (ih (u.taken - 1) c) ?_)
        refine List.suffix_of_suffix_length_le ((List.drop_suffix _ _).trans
          (List.suffix_cons c rest)) (same ▸ List.suffix_append _ _) ?_
        have whole := congrArg List.length same
        have one := List.length_pos_iff.mpr some
        have length := taken.length
        simp only [Trail.start, List.length_cons, List.length_append, List.length_drop]
          at whole length ⊢
        omega

theorem countMost {q : Pattern} (nearest : Nearest p) (reads : p.reading = true)
    (filled : ¬p.Takes [])
    (within : ∀ {before text u}, q.matchAt? before text = some u →
      ∃ v, p.Reads (.start before) text v ∧ v.taken ≤ u.taken)
    (text : List Char) : q.count text ≤ p.count text := by
  rw [countScan, countScan]
  exact rowScanned nearest reads filled (rowFound filled within 0 ' ' text) ' '

end

end PageAudit.Pattern
