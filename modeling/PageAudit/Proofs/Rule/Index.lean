import PageAudit.Proofs.Rule.Selection
/-!
The index of rules by id. It is there exactly if no id occurs twice, and then it holds each rule
once under its own id; otherwise the first rule that repeats an id is the one that is named.
-/
namespace PageAudit

structure Fresh (known : List String) (rules : List Rule) : Prop where
  unknown : ∀ r ∈ rules, r.id ∉ known
  apart : (rules.map Rule.id).Nodup

def FirstRepeat (known : List String) (rules : List Rule) (r : Rule) : Prop :=
  ∃ before after, rules = before ++ r :: after ∧ Fresh known before ∧
    (r.id ∈ known ∨ r.id ∈ before.map Rule.id)

section
variable {known : List String} {rules : List Rule} {r s : Rule}
  {entries : List (String × Rule)} {e : DuplicateId}

theorem freshNothing : Fresh known [] := ⟨nofun, List.nodup_nil⟩

theorem freshNext : Fresh known (r :: rules) ↔ r.id ∉ known ∧ Fresh (r.id :: known) rules := by
  constructor
  · intro fresh
    obtain ⟨unknown, others⟩ := List.forall_mem_cons.mp fresh.unknown
    obtain ⟨new, apart⟩ := List.nodup_cons.mp fresh.apart
    refine ⟨unknown, fun s member => ?_, apart⟩
    rw [List.mem_cons, not_or]
    exact ⟨fun same => new (same ▸ List.mem_map_of_mem member), others s member⟩
  · intro ⟨unknown, fresh⟩
    have others : ∀ s ∈ rules, s.id ≠ r.id ∧ s.id ∉ known := fun s member => by
      simpa using fresh.unknown s member
    refine ⟨List.forall_mem_cons.mpr ⟨unknown, fun s member => (others s member).2⟩, ?_⟩
    refine List.nodup_cons.mpr ⟨fun member => ?_, fresh.apart⟩
    obtain ⟨s, there, same⟩ := List.mem_map.mp member
    exact (others s there).1 same

theorem repeatsHere (old : r.id ∈ known) : FirstRepeat known (r :: rules) s ↔ s = r := by
  constructor
  · rintro ⟨before, after, whole, fresh, -⟩
    cases before with
    | nil => exact (List.cons.inj whole).1.symm
    | cons b before =>
      obtain ⟨rfl, -⟩ := List.cons.inj whole
      exact absurd old (freshNext.mp fresh).1
  · rintro rfl
    exact ⟨[], rules, rfl, freshNothing, .inl old⟩

theorem repeatsLater (new : r.id ∉ known) :
    FirstRepeat known (r :: rules) s ↔ FirstRepeat (r.id :: known) rules s := by
  constructor
  · rintro ⟨before, after, whole, fresh, again⟩
    cases before with
    | nil =>
      obtain ⟨rfl, -⟩ := List.cons.inj whole
      simp [new] at again
    | cons b before =>
      obtain ⟨rfl, behind⟩ := List.cons.inj whole
      refine ⟨before, after, behind, (freshNext.mp fresh).2, ?_⟩
      simpa [or_assoc, or_left_comm] using again
  · rintro ⟨before, after, rfl, fresh, again⟩
    refine ⟨r :: before, after, rfl, freshNext.mpr ⟨new, fresh⟩, ?_⟩
    simpa [or_assoc, or_left_comm] using again

/- By induction on the rules that are left; the ids of those that were passed are known. -/
theorem indexAfterOk : indexAfter known rules = .ok entries ↔
    Fresh known rules ∧ entries = rules.map fun r => (r.id, r) := by
  induction rules generalizing known entries with
  | nil => simp [indexAfter, freshNothing, eq_comm]
  | cons r rules ih =>
    by_cases old : r.id ∈ known
    · simp [indexAfter, freshNext, old]
    · cases later : indexAfter (r.id :: known) rules with
      | ok more =>
        obtain ⟨fresh, rfl⟩ := ih.mp later
        simp [indexAfter, freshNext, old, later, fresh, eq_comm]
      | error e =>
        have stale : ¬Fresh (r.id :: known) rules := fun fresh => by
          cases later.symm.trans (ih.mpr ⟨fresh, rfl⟩)
        simp [indexAfter, freshNext, old, later, stale]

theorem indexAfterError :
    indexAfter known rules = .error e ↔ ∃ r, FirstRepeat known rules r ∧ e = ⟨r.id⟩ := by
  induction rules generalizing known with
  | nil => simp [indexAfter, FirstRepeat]
  | cons r rules ih =>
    by_cases old : r.id ∈ known
    · simp only [repeatsHere old, exists_eq_left]
      simp [indexAfter, old, eq_comm]
    · simp only [repeatsLater old]
      rw [← ih, indexAfter]
      simp only [List.contains_eq_mem, old, decide_false, Bool.false_eq_true, if_false]
      cases indexAfter (r.id :: known) rules <;> simp

theorem lookupEntry (rules : List Rule) (id : String) :
    (rules.map fun r => (r.id, r)).lookup id = rules.find? fun r => r.id == id := by
  induction rules with
  | nil => rfl
  | cons r rules ih =>
    rw [List.map_cons, List.lookup_cons, List.find?_cons, ih, Bool.beq_comm]

theorem ownEntry (apart : (rules.map Rule.id).Nodup) (member : r ∈ rules) :
    (rules.map fun r => (r.id, r)).lookup r.id = some r := by
  rw [lookupEntry]
  obtain ⟨s, found⟩ : ∃ s, (rules.find? fun s => s.id == r.id) = some s := by
    rw [← Option.isSome_iff_exists, List.find?_isSome]
    exact ⟨r, member, beq_self_eq_true _⟩
  have same : s.id = r.id := by simpa using List.find?_some found
  rw [found, List.inj_on_of_nodup_map apart (List.mem_of_find?_eq_some found) member same]

theorem freshApart : Fresh [] rules ↔ (rules.map Rule.id).Nodup :=
  ⟨Fresh.apart, fun apart => ⟨fun _ _ => List.not_mem_nil, apart⟩⟩

theorem firstRepeat : FirstRepeat [] rules r ↔ ∃ before after, rules = before ++ r :: after ∧
    (before.map Rule.id).Nodup ∧ r.id ∈ before.map Rule.id := by
  simp only [FirstRepeat, freshApart, List.not_mem_nil, false_or]

end

theorem catalogIndexed :
    ∃ entries, index catalog = .ok entries ∧ ∀ id, entries.lookup id = rule? id :=
  ⟨_, indexAfterOk.mpr ⟨freshApart.mpr catalogIdsDistinct, rfl⟩, lookupEntry catalog⟩

theorem rulesIndexed (rules : List Rule) :
    ((∃ entries, index rules = .ok entries) ↔ (rules.map Rule.id).Nodup) ∧
    (∀ entries, index rules = .ok entries → entries.map Prod.fst = rules.map Rule.id ∧
      ∀ r ∈ rules, entries.lookup r.id = some r) ∧
    (∀ e, index rules = .error e ↔ ∃ r before after, rules = before ++ r :: after ∧
      (before.map Rule.id).Nodup ∧ r.id ∈ before.map Rule.id ∧ e = ⟨r.id⟩) ∧
    ∀ id, DuplicateId.message ⟨id⟩ = "Duplicate rule id in catalog: " ++ id := by
  refine ⟨?_, fun entries made => ?_, fun e => ?_, fun id => rfl⟩
  · simp [index, indexAfterOk, freshApart]
  · obtain ⟨fresh, rfl⟩ := indexAfterOk.mp made
    exact ⟨by simp, fun r member => ownEntry fresh.apart member⟩
  · simp only [index, indexAfterError, firstRepeat, ← exists_and_right, and_assoc]

theorem laterRepeatNamed :
    let named := fun id => (⟨id, "", "", .info, "", "", "", "", "", [], []⟩ : Rule)
    index [named "a", named "b", named "b", named "a"] = .error ⟨"b"⟩ := by
  intro named
  refine ((rulesIndexed _).2.2.1 _).mpr ⟨named "b", [named "a", named "b"], [named "a"], rfl, ?_⟩
  exact ⟨by decide, by decide, rfl⟩

end PageAudit
