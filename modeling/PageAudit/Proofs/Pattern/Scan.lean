import PageAudit.Proofs.Pattern.Matches
/-!
The matches of a text as one list. Searching, counting and listing are all read off it: the first
match is its head, the count its length.
-/
namespace PageAudit.Pattern

def scan (p : Pattern) : (skip : Nat) → (before : Char) → List Char → List Match
  | 0, before, [] => ((p.matchAt? before []).map fun t => t.found []).toList
  | _ + 1, _, [] => []
  | skip + 1, _, c :: rest => p.scan skip c rest
  | 0, before, c :: rest =>
    match p.matchAt? before (c :: rest) with
    | some t => t.found (c :: rest) :: p.scan (t.taken - 1) c rest
    | none => p.scan 0 c rest

section
variable {p : Pattern} {before c : Char} {rest text : List Char}

theorem runUnstarted (p : Pattern) (t : Trail) (unstarted : p.mayStartWith c = false) :
    p.run t (c :: rest) = none := by
  induction p generalizing t with
  | one accepts next ih =>
    have refused : accepts c = false := unstarted
    simp [run, refused]
  | either left right ihLeft ihRight =>
    simp only [mayStartWith, Bool.or_eq_false_iff] at unstarted
    simp [run, ihLeft t unstarted.1, ihRight t unstarted.2]
  | edge next ih =>
    have after := ih t unstarted
    simp [run, after]
  | opening next ih => exact ih _ unstarted
  | closing next ih => cases unstarted
  | done => cases unstarted
  | many accepts next ih => cases unstarted
  | few accepts next ih => cases unstarted
  | lacking ahead next ihAhead ih => cases unstarted
  | again next ih => cases unstarted

theorem matchUnstarted (unstarted : p.mayStartWith c = false) :
    p.matchAt? before (c :: rest) = none :=
  runUnstarted p _ unstarted

theorem scanPast {passed : List Char} (unstarted : ∀ c ∈ passed, p.mayStartWith c = false) :
    p.scan 0 before (passed ++ rest) = p.scan 0 (passed.getLastD before) rest := by
  induction passed generalizing before with
  | nil => rfl
  | cons c passed ih =>
    obtain ⟨first, others⟩ := List.forall_mem_cons.mp unstarted
    rw [List.cons_append, scan, matchUnstarted first, List.getLastD_cons]
    exact ih others

theorem foldScan {α : Type} (p : Pattern) (add : α → Match → α) (skip : Nat) (found : α)
    (before : Char) (text : List Char) :
    p.foldFrom add skip found before text = (p.scan skip before text).foldl add found := by
  induction text generalizing skip found before with
  | nil =>
    cases skip with
    | zero => cases matched : p.matchAt? before [] <;> simp [foldFrom, scan, matched]
    | succ skip => rfl
  | cons c rest ih =>
    cases skip with
    | succ skip => exact ih skip found c
    | zero =>
      cases starts : p.mayStartWith c with
      | false => simp [foldFrom, scan, starts, matchUnstarted starts, ih]
      | true =>
        cases matched : p.matchAt? before (c :: rest) <;>
          simp [foldFrom, scan, starts, matched, ih]

theorem matchesScan (p : Pattern) (text : List Char) : p.matches? text = p.scan 0 ' ' text := by
  have pushed : ∀ (found matches' : List Match),
      matches'.foldl (fun found m => m :: found) found = matches'.reverse ++ found := by
    intro found matches'
    induction matches' generalizing found with
    | nil => rfl
    | cons m more ih => simp [ih]
  rw [matches?, foldScan, pushed, List.append_nil, List.reverse_reverse]

theorem countScan (p : Pattern) (text : List Char) : p.count text = (p.scan 0 ' ' text).length := by
  have counted : ∀ (n : Nat) (matches' : List Match),
      matches'.foldl (fun n _ => n + 1) n = n + matches'.length := by
    intro n matches'
    induction matches' generalizing n with
    | nil => rfl
    | cons m more ih =>
      rw [List.foldl_cons, ih, List.length_cons]
      omega
  rw [count, foldScan, counted, Nat.zero_add]

theorem findAllCount (p : Pattern) (text : List Char) : (p.findAll text).length = p.count text := by
  rw [findAll, List.length_map, matchesScan, countScan]

theorem findScan (p : Pattern) (before : Char) (text : List Char) :
    p.findFrom? before text = (p.scan 0 before text).head? := by
  induction text generalizing before with
  | nil => cases matched : p.matchAt? before [] <;> simp [findFrom?, scan, matched]
  | cons c rest ih =>
    cases starts : p.mayStartWith c with
    | false => simp [findFrom?, scan, starts, matchUnstarted starts, ih]
    | true =>
      cases matched : p.matchAt? before (c :: rest) <;>
        simp [findFrom?, scan, starts, matched, ih]

theorem occursScan : p.occursIn text = true ↔ p.scan 0 ' ' text ≠ [] := by
  rw [occursIn, find?, findScan, List.isSome_head?]

theorem occursCount : p.occursIn text = true ↔ p.count text ≠ 0 := by
  rw [occursScan, countScan, Ne, Ne, List.length_eq_zero_iff]

structure FoundIn (p : Pattern) (text : List Char) (m : Match) (before : Char) (rest : List Char)
    (t : Trail) : Prop where
  here : rest <:+ text
  matched : p.matchAt? before rest = some t
  same : m = t.found rest

theorem scanFound {skip : Nat} {m : Match} (member : m ∈ p.scan skip before text) :
    ∃ before rest t, FoundIn p (text.drop skip) m before rest t := by
  induction text generalizing skip before with
  | nil =>
    cases skip with
    | succ skip => cases member
    | zero =>
      rw [scan, Option.mem_toList, Option.map_eq_some_iff] at member
      obtain ⟨t, matched, same⟩ := member
      exact ⟨before, [], t, List.suffix_refl _, matched, same.symm⟩
  | cons c rest ih =>
    -- What is found farther on is found in the whole text as well.
    have later : ∀ {skip : Nat}, m ∈ p.scan skip c rest →
        ∃ before after t, FoundIn p (c :: rest) m before after t := by
      intro skip after
      obtain ⟨before, start, t, found⟩ := ih after
      exact ⟨before, start, t,
        { found with
          here := (found.here.trans (List.drop_suffix _ _)).trans (List.suffix_cons c rest) }⟩
    cases skip with
    | succ skip => exact ih member
    | zero =>
      rw [scan] at member
      split at member
      · rename_i t matched
        rcases List.mem_cons.mp member with rfl | after
        · exact ⟨before, c :: rest, t, List.suffix_refl _, matched, rfl⟩
        · exact later after
      · exact later member

theorem scanListed (apart : ∀ {before text t}, p.matchAt? before text = some t →
      ∀ passed rest, text = passed ++ rest → passed ≠ [] → passed.length < t.taken →
        ∀ before, p.matchAt? before rest = none)
    {skip : Nat} {passed rest : List Char} {t : Trail} (split : text = passed ++ rest)
    (matched : p.matchAt? (passed.getLastD before) rest = some t) (free : skip ≤ passed.length) :
    t.found rest ∈ p.scan skip before text := by
  induction text generalizing skip before passed with
  | nil =>
    obtain ⟨rfl, rfl⟩ := List.append_eq_nil_iff.mp split.symm
    obtain rfl := Nat.le_zero.mp free
    have here : p.matchAt? before [] = some t := matched
    rw [scan, here]
    exact List.mem_singleton_self _
  | cons c text ih =>
    cases passed with
    | nil =>
      obtain rfl := Nat.le_zero.mp free
      obtain rfl : c :: text = rest := split
      have here : p.matchAt? before (c :: text) = some t := matched
      rw [scan, here]
      exact List.mem_cons_self
    | cons d passed =>
      obtain ⟨rfl, behind⟩ := List.cons.inj split
      rw [List.getLastD_cons] at matched
      cases skip with
      | succ skip => exact ih behind matched (Nat.le_of_succ_le_succ free)
      | zero =>
        rw [scan]
        split
        · rename_i u found
          refine List.mem_cons_of_mem _ (ih behind matched (Nat.le_of_not_lt fun inside => ?_))
          -- The match lies behind the one found here, since none starts within that.
          have none := apart found (c :: passed) rest split (List.cons_ne_nil _ _)
            (by rw [List.length_cons]; omega) (passed.getLastD c)
          cases none.symm.trans matched
        · exact ih behind matched (Nat.zero_le _)

theorem scanTaken {skip : Nat} {m : Match} (member : m ∈ p.scan skip before text) :
    p.Takes m.text ∧ m.text <:+: text.drop skip := by
  obtain ⟨before, rest, t, found⟩ := scanFound member
  rw [found.same]
  exact ⟨matchAtTaken found.matched, (List.take_prefix _ _).isInfix.trans found.here.isInfix⟩

theorem findTaken {m : Match} (found : p.find? text = some m) :
    p.Takes m.text ∧ m.text <:+: text := by
  rw [find?, findScan] at found
  exact scanTaken (List.mem_of_head? found)

theorem matchTaken {m : Match} (member : m ∈ p.matches? text) :
    p.Takes m.text ∧ m.text <:+: text := by
  rw [matchesScan] at member
  exact scanTaken member

theorem findAllTaken {part : List Char} (member : part ∈ p.findAll text) :
    p.Takes part ∧ part <:+: text := by
  obtain ⟨m, found, rfl⟩ := List.mem_map.mp member
  exact matchTaken found

end

end PageAudit.Pattern
