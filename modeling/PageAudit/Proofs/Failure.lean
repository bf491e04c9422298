/-!
Runs that stop at their first error. A sequence of runs stops exactly if one of its steps does, and
a loop exactly if its body does at one of the items.
-/
namespace PageAudit

variable {α β ε : Type} {e : ε}

theorem bindError {x : Except ε α} {next : α → Except ε β} :
    x >>= next = .error e ↔ x = .error e ∨ ∃ a, x = .ok a ∧ next a = .error e := by
  cases x with
  | error d => simp [bind, Except.bind]
  | ok a => simp [bind, Except.bind]

theorem bindOk {x : Except ε α} {next : α → Except ε β} {b : β} :
    x >>= next = .ok b ↔ ∃ a, x = .ok a ∧ next a = .ok b := by
  cases x with
  | error d => simp [bind, Except.bind]
  | ok a => simp [bind, Except.bind]

theorem mapOk {x : Except ε α} {f : α → β} {b : β} :
    x.map f = .ok b ↔ ∃ a, x = .ok a ∧ f a = b := by
  cases x with
  | error d => simp [Except.map]
  | ok a => simp [Except.map]

/- A run ends one way or the other, so what each end tells decides on the error. -/
theorem failsExactly {x : Except ε α} {condition : Prop}
    (stopped : ∀ e, x = .error e → condition) (ended : ∀ a, x = .ok a → ¬condition) :
    (∃ e, x = .error e) ↔ condition := by
  cases x with
  | error e => exact iff_of_true ⟨e, rfl⟩ (stopped e rfl)
  | ok a => exact iff_of_false nofun (ended a rfl)

theorem okUnfailed {x : Except ε α} (ended : ∃ a, x = .ok a) : ¬∃ e, x = .error e := by
  rintro ⟨e, failed⟩
  obtain ⟨a, same⟩ := ended
  cases failed.symm.trans same

theorem mapMError {f : α → Except ε β} {xs : List α} (stopped : xs.mapM f = .error e) :
    ∃ x ∈ xs, f x = .error e := by
  induction xs with
  | nil => cases stopped
  | cons x xs ih =>
    rw [List.mapM_cons] at stopped
    rcases bindError.mp stopped with first | ⟨y, -, later⟩
    · exact ⟨x, List.mem_cons_self, first⟩
    · rcases bindError.mp later with rest | ⟨ys, -, finished⟩
      · obtain ⟨z, member, failed⟩ := ih rest
        exact ⟨z, List.mem_cons_of_mem x member, failed⟩
      · cases finished

theorem mapMOk {f : α → Except ε β} {xs : List α} {ys : List β} (ended : xs.mapM f = .ok ys) :
    ∀ x ∈ xs, ∃ y, f x = .ok y := by
  induction xs generalizing ys with
  | nil => nofun
  | cons x xs ih =>
    rw [List.mapM_cons] at ended
    obtain ⟨y, first, later⟩ := bindOk.mp ended
    obtain ⟨rest, others, -⟩ := bindOk.mp later
    exact List.forall_mem_cons.mpr ⟨⟨y, first⟩, ih others⟩

theorem mapMFails {f : α → Except ε β} {xs : List α} :
    (∃ e, xs.mapM f = .error e) ↔ ∃ x ∈ xs, ∃ e, f x = .error e := by
  refine failsExactly ?_ ?_
  · intro e stopped
    obtain ⟨x, member, failed⟩ := mapMError stopped
    exact ⟨x, member, e, failed⟩
  · rintro ys ended ⟨x, member, failed⟩
    exact okUnfailed (mapMOk ended x member) failed

theorem mapMAlike {f g : α → Except ε β} {xs : List α} (alike : ∀ x ∈ xs, f x = g x) :
    xs.mapM f = xs.mapM g := by
  induction xs with
  | nil => rfl
  | cons x xs ih =>
    obtain ⟨first, others⟩ := List.forall_mem_cons.mp alike
    rw [List.mapM_cons, List.mapM_cons, first, ih others]

theorem mapMPrefix {f : α → Except ε β} {xs xs' : List α} {ys' : List β} (start : xs <+: xs')
    (ended : xs'.mapM f = .ok ys') : ∃ ys, xs.mapM f = .ok ys ∧ ys <+: ys' := by
  obtain ⟨more, rfl⟩ := start
  rw [List.mapM_append] at ended
  obtain ⟨ys, first, later⟩ := bindOk.mp ended
  obtain ⟨rest, -, finished⟩ := bindOk.mp later
  obtain rfl := Except.ok.inj finished
  exact ⟨ys, first, List.prefix_append ..⟩

theorem filterAuxError {f : α → Except ε Bool} {xs kept : List α}
    (stopped : xs.filterAuxM f kept = .error e) : ∃ x ∈ xs, f x = .error e := by
  induction xs generalizing kept with
  | nil => cases stopped
  | cons x xs ih =>
    rcases bindError.mp stopped with first | ⟨b, -, rest⟩
    · exact ⟨x, List.mem_cons_self, first⟩
    · obtain ⟨z, member, failed⟩ := ih rest
      exact ⟨z, List.mem_cons_of_mem x member, failed⟩

theorem filterAuxOk {f : α → Except ε Bool} {xs kept ys : List α}
    (ended : xs.filterAuxM f kept = .ok ys) : ∀ x ∈ xs, ∃ b, f x = .ok b := by
  induction xs generalizing kept with
  | nil => nofun
  | cons x xs ih =>
    obtain ⟨b, first, rest⟩ := bindOk.mp ended
    exact List.forall_mem_cons.mpr ⟨⟨b, first⟩, ih rest⟩

theorem filterMFails {f : α → Except ε Bool} {xs : List α} :
    (∃ e, xs.filterM f = .error e) ↔ ∃ x ∈ xs, ∃ e, f x = .error e := by
  refine failsExactly ?_ ?_
  · intro e stopped
    rcases bindError.mp stopped with early | ⟨kept, -, finished⟩
    · obtain ⟨x, member, failed⟩ := filterAuxError early
      exact ⟨x, member, e, failed⟩
    · cases finished
  · rintro ys ended ⟨x, member, failed⟩
    obtain ⟨kept, passed, -⟩ := bindOk.mp ended
    exact okUnfailed (filterAuxOk passed x member) failed

theorem filterAuxKept {f : α → Except ε Bool} {xs kept ys : List α}
    (ended : xs.filterAuxM f kept = .ok ys) : ys ⊆ xs ++ kept := by
  induction xs generalizing kept with
  | nil =>
    obtain rfl := Except.ok.inj ended
    exact List.Subset.refl kept
  | cons x xs ih =>
    obtain ⟨b, -, rest⟩ := bindOk.mp ended
    intro y member
    have among := ih rest member
    rw [List.cons_append, List.mem_cons, List.mem_append]
    cases b with
    | false => exact .inr (List.mem_append.mp among)
    | true =>
      rw [cond_true, List.mem_append, List.mem_cons] at among
      exact or_left_comm.mp among

theorem filterMKept {f : α → Except ε Bool} {xs ys : List α} (ended : xs.filterM f = .ok ys) :
    ys ⊆ xs := by
  obtain ⟨kept, passed, finished⟩ := bindOk.mp ended
  obtain rfl := Except.ok.inj finished
  intro y member
  simpa using filterAuxKept passed (List.mem_reverse.mp member)

theorem filterAuxFilter {f : α → Except ε Bool} {g : α → Bool} {xs kept ys : List α}
    (gives : ∀ x ∈ xs, ∀ b, f x = .ok b → b = g x) (ended : xs.filterAuxM f kept = .ok ys) :
    ys = (xs.filter g).reverse ++ kept := by
  induction xs generalizing kept with
  | nil =>
    obtain rfl := Except.ok.inj ended
    rfl
  | cons x xs ih =>
    obtain ⟨first, others⟩ := List.forall_mem_cons.mp gives
    obtain ⟨b, passed, rest⟩ := bindOk.mp ended
    obtain rfl := first b passed
    rw [ih others rest]
    cases picked : g x <;> simp [picked]

theorem filterMFilter {f : α → Except ε Bool} {g : α → Bool} {xs ys : List α}
    (gives : ∀ x ∈ xs, ∀ b, f x = .ok b → b = g x) (ended : xs.filterM f = .ok ys) :
    ys = xs.filter g := by
  obtain ⟨kept, passed, finished⟩ := bindOk.mp ended
  obtain rfl := Except.ok.inj finished
  rw [filterAuxFilter gives passed, List.append_nil, List.reverse_reverse]

end PageAudit
