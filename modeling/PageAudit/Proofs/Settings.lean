import PageAudit.Settings
/-!
Settings are read field by field, and none are made without a positive timeout. Over any run of the
store, what the first call since the last clearing read is given until the next one, whatever is set,
unset or made meanwhile. A call that fails leaves nothing behind, so the next one reads the
environment again.
-/
namespace PageAudit

open Number (Double)

namespace Settings

section
variable {env : Environment} {given : List (String × Json)} {s : Settings}

theorem checkTimeoutPositive {x y : Double} (checked : checkTimeout x = .ok y) :
    Double.less 0 y = true := by
  unfold checkTimeout at checked
  split at checked
  · cases checked
    assumption
  · cases checked

theorem readTimeoutPositive {value : Json} {x : Double} (read : readTimeout value = .ok x) :
    Double.less 0 x = true := by
  unfold readTimeout at read
  split at read
  · split at read
    · split at read
      · cases read
      · exact checkTimeoutPositive read
    · cases read
  · split at read
    · exact checkTimeoutPositive read
    · cases read
  · exact checkTimeoutPositive read
  · cases read

theorem fieldOk {α : Type} {name : String} {read : Json → Except FieldProblem α} {default a : α}
    (ended : field env given name read default = .ok a) :
    a = default ∨ ∃ value, read value = .ok a := by
  unfold field at ended
  split at ended
  · exact .inr ⟨_, ended⟩
  · cases ended
    exact .inl rfl

theorem ofGivenOk :
    ofGiven env given = .ok s ↔
      field env given "accept" readText defaultAccept = .ok s.accept ∧
      field env given "log_json" readTruth false = .ok s.logJson ∧
      field env given "log_level" readText "INFO" = .ok s.logLevel ∧
      field env given "timeout" readTimeout 10 = .ok s.timeout ∧
      field env given "user_agent" readText defaultUserAgent = .ok s.userAgent := by
  constructor
  · intro made
    simp only [ofGiven] at made
    split at made
    · rename_i accept logJson logLevel timeout userAgent
      cases made
      exact ⟨accept, logJson, logLevel, timeout, userAgent⟩
    · cases made
  · rintro ⟨accept, logJson, logLevel, timeout, userAgent⟩
    simp only [ofGiven, accept, logJson, logLevel, timeout, userAgent]

theorem ofGivenPositive (made : ofGiven env given = .ok s) : Double.less 0 s.timeout = true := by
  obtain ⟨-, -, -, timeout, -⟩ := ofGivenOk.mp made
  rcases fieldOk timeout with default | ⟨value, read⟩
  · rw [default]
    decide +kernel
  · exact readTimeoutPositive read

end

end Settings

def Environment.change (env : Environment) : SettingsStep → Environment
  | .set name value => env.set name value
  | .unset name => env.unset name
  | _ => env

def Environment.after (env : Environment) (steps : List SettingsStep) : Environment :=
  steps.foldl Environment.change env

namespace SettingsStore

abbrev Answers := List (Option (Except SettingsError Settings))

def after (store : SettingsStore) (steps : List SettingsStep) : SettingsStore :=
  steps.foldl (fun store s => (store.step s).2) store

def Gives (answers : Answers) (i : Nat) (answer : Except SettingsError Settings) : Prop :=
  answers[i]? = some (some answer)

def Calls (steps : List SettingsStep) (i : Nat) : Prop := steps[i]? = some .get

def Unclear (steps : List SettingsStep) (k i : Nat) : Prop :=
  ∀ c, k < c → c < i → steps[c]? ≠ some .clear

structure Loads (steps : List SettingsStep) (answers : Answers) (j : Nat) (s : Settings) :
    Prop where
  calls : Calls steps j
  gives : Gives answers j (.ok s)
  first : ∀ k, k < j → Calls steps k → Unclear steps k j → ∃ e, Gives answers k (.error e)

/-- How the answers of a run come from its steps and the environment it starts in. -/
structure Consistent (env : Environment) (steps : List SettingsStep) (answers : Answers) :
    Prop where
  made : ∀ i given, steps[i]? = some (.new given) →
    Gives answers i (Settings.ofGiven (env.after (steps.take i)) given)
  answered : ∀ i, Calls steps i → ∃ answer, Gives answers i answer
  held : ∀ i s, Calls steps i → Gives answers i (.ok s) →
    ∃ j, j ≤ i ∧ Loads steps answers j s ∧ Unclear steps j i ∧
      Settings.ofEnvironment (env.after (steps.take j)) = .ok s
  kept : ∀ j i s, Loads steps answers j s → j ≤ i → Unclear steps j i → Calls steps i →
    Gives answers i (.ok s)
  failed : ∀ i e, Calls steps i → Gives answers i (.error e) →
    Settings.ofEnvironment (env.after (steps.take i)) = .error e ∧
      ((start env).after (steps.take (i + 1))).cached = none
  reread : ∀ i e n, Calls steps i → Gives answers i (.error e) → i < n →
    (∀ k, i < k → k < n → ¬Calls steps k) → Calls steps n →
    Gives answers n (Settings.ofEnvironment (env.after (steps.take n)))
  positive : ∀ (i : Nat) (s : Settings), Gives answers i (.ok s) → Double.less 0 s.timeout = true

/-- What is held before the step number `i`: nothing where every call since the last clearing
failed, else the settings of the first that did not. -/
inductive Holds (env : Environment) (steps : List SettingsStep) (answers : Answers) (i : Nat) :
    Option Settings → Prop
  | nothing
    (failed : ∀ k, k < i → Calls steps k → Unclear steps k i → ∃ e, Gives answers k (.error e)) :
    Holds env steps answers i none
  | settings {j : Nat} {s : Settings} (before : j < i) (loads : Loads steps answers j s)
    (unclear : Unclear steps j i)
    (read : Settings.ofEnvironment (env.after (steps.take j)) = .ok s) :
    Holds env steps answers i (some s)

section
variable {env : Environment} {store : SettingsStore} {steps : List SettingsStep}
  {answers : Answers} {s : Settings} {e : SettingsError} {step : SettingsStep} {i j k : Nat}

theorem getHeld (held : store.cached = some s) : store.get = (.ok s, store) := by
  simp only [get, held]

theorem getRead (empty : store.cached = none)
    (read : Settings.ofEnvironment store.environment = .ok s) :
    store.get = (.ok s, { store with cached := some s }) := by
  simp only [get, empty, read]

theorem getFailed (empty : store.cached = none)
    (failed : Settings.ofEnvironment store.environment = .error e) :
    store.get = (.error e, store) := by
  simp only [get, empty, failed]

theorem getEmpty (empty : store.cached = none) :
    store.get.1 = Settings.ofEnvironment store.environment := by
  cases read : Settings.ofEnvironment store.environment with
  | ok s => rw [getRead empty read]
  | error e => rw [getFailed empty read]

theorem stepEnvironment (store : SettingsStore) (step : SettingsStep) :
    (store.step step).2.environment = store.environment.change step := by
  cases step with
  | get =>
    simp only [SettingsStore.step, get]
    split
    · rfl
    · split <;> rfl
  | _ => rfl

theorem afterEnvironment (store : SettingsStore) (steps : List SettingsStep) :
    (store.after steps).environment = store.environment.after steps := by
  induction steps generalizing store with
  | nil => rfl
  | cons step rest ih =>
    change ((store.step step).2.after rest).environment = (store.environment.change step).after rest
    rw [ih, stepEnvironment]

theorem afterNext (now : steps[i]? = some step) :
    store.after (steps.take (i + 1)) = ((store.after (steps.take i)).step step).2 := by
  rw [List.take_add_one, now, after, List.foldl_append]
  rfl

theorem runAt (store : SettingsStore) (steps : List SettingsStep) (i : Nat) :
    (store.run steps)[i]? =
      steps[i]?.map fun step => ((store.after (steps.take i)).step step).1 := by
  induction steps generalizing store i with
  | nil => rfl
  | cons step rest ih =>
    cases i with
    | zero => rfl
    | succ i => exact ih (store.step step).2 i

theorem callGives (store : SettingsStore) (calls : Calls steps i) :
    Gives (store.run steps) i (store.after (steps.take i)).get.1 := by
  rw [Gives, runAt, calls]
  rfl

theorem Unclear.prior (unclear : Unclear steps k (i + 1)) : Unclear steps k i :=
  fun c after before => unclear c after (Nat.lt_succ_of_lt before)

theorem Unclear.next (unclear : Unclear steps k i) (now : steps[i]? ≠ some .clear) :
    Unclear steps k (i + 1) := by
  intro c after before
  rcases Nat.lt_succ_iff_lt_or_eq.mp before with earlier | rfl
  · exact unclear c after earlier
  · exact now

theorem failedNext
    (failed : ∀ k, k < i → Calls steps k → Unclear steps k i → ∃ e, Gives answers k (.error e))
    (now : Calls steps i → ∃ e, Gives answers i (.error e)) (k : Nat) (before : k < i + 1)
    (calls : Calls steps k) (since : Unclear steps k (i + 1)) :
    ∃ e, Gives answers k (.error e) := by
  rcases Nat.lt_succ_iff_lt_or_eq.mp before with earlier | rfl
  · exact failed k earlier calls since.prior
  · exact now calls

theorem Holds.next {cached : Option Settings} (holds : Holds env steps answers i cached)
    (unclear : steps[i]? ≠ some .clear) (uncalled : ¬Calls steps i) :
    Holds env steps answers (i + 1) cached := by
  cases holds with
  | nothing failed => exact .nothing (failedNext failed fun calls => absurd calls uncalled)
  | settings before loads since read =>
    exact .settings (Nat.lt_succ_of_lt before) loads (since.next unclear) read

theorem holdsCleared (now : steps[i]? = some .clear) : Holds env steps answers (i + 1) none := by
  refine .nothing fun k before calls since => ?_
  rcases Nat.lt_succ_iff_lt_or_eq.mp before with earlier | rfl
  · exact absurd now (since i earlier (Nat.lt_succ_self i))
  · cases calls.symm.trans now

theorem holdsCalled (calls : Calls steps i) (gives : Gives answers i store.get.1)
    (environment : store.environment = env.after (steps.take i))
    (holds : Holds env steps answers i store.cached) :
    Holds env steps answers (i + 1) store.get.2.cached := by
  have unclear : steps[i]? ≠ some .clear := by
    rw [calls]
    simp
  cases held : store.cached with
  | some s =>
    rw [held] at holds
    rw [getHeld held, held]
    cases holds with
    | settings before loads since read =>
      exact .settings (Nat.lt_succ_of_lt before) loads (since.next unclear) read
  | none =>
    rw [held] at holds
    obtain ⟨failed⟩ := holds
    cases read : Settings.ofEnvironment store.environment with
    | ok s =>
      rw [getRead held read] at gives ⊢
      have none : Unclear steps i (i + 1) :=
        fun c after before => absurd after (Nat.not_lt.mpr (Nat.le_of_lt_succ before))
      exact .settings (Nat.lt_succ_self i) ⟨calls, gives, failed⟩ none (environment ▸ read)
    | error e =>
      rw [getFailed held read] at gives ⊢
      rw [held]
      exact .nothing (failedNext failed fun _ => ⟨e, gives⟩)

theorem startHolds (env : Environment) (steps : List SettingsStep) (i : Nat) :
    Holds env steps ((start env).run steps) i ((start env).after (steps.take i)).cached := by
  induction i with
  | zero => exact .nothing fun k before => absurd before (Nat.not_lt_zero k)
  | succ i ih =>
    cases now : steps[i]? with
    | none =>
      have ended : steps.take (i + 1) = steps.take i := by rw [List.take_add_one, now]; simp
      rw [ended]
      exact ih.next (by simp [now]) (by simp [Calls, now])
    | some step =>
      rw [afterNext now]
      cases step with
      | clear => exact holdsCleared now
      | get =>
        exact holdsCalled now (callGives _ now) (afterEnvironment ..) ih
      | _ => exact ih.next (by simp [now]) (by simp [Calls, now])

theorem Loads.unpreceded {n : Nat} {other : Settings} (one : Loads steps answers j s)
    (two : Loads steps answers k other) (unclear : Unclear steps k n) (before : j < n) : j ≤ k := by
  refine Nat.not_lt.mp fun later => ?_
  obtain ⟨e, failed⟩ := one.first k later two.calls fun c after sooner =>
    unclear c after (Nat.lt_trans sooner before)
  cases two.gives.symm.trans failed

theorem callSource (calls : Calls steps i) :
    (∃ j s, j < i ∧ Loads steps ((start env).run steps) j s ∧ Unclear steps j i ∧
      Settings.ofEnvironment (env.after (steps.take j)) = .ok s ∧
      Gives ((start env).run steps) i (.ok s)) ∨
    ((start env).after (steps.take i)).cached = none ∧
      (∀ k, k < i → Calls steps k → Unclear steps k i →
        ∃ e, Gives ((start env).run steps) k (.error e)) ∧
      Gives ((start env).run steps) i (Settings.ofEnvironment (env.after (steps.take i))) := by
  have holds := startHolds env steps i
  have gives := callGives (start env) calls
  cases held : ((start env).after (steps.take i)).cached with
  | some s =>
    rw [held] at holds
    rw [getHeld held] at gives
    cases holds with
    | settings before loads since read => exact .inl ⟨_, s, before, loads, since, read, gives⟩
  | none =>
    rw [held] at holds
    rw [getEmpty held, afterEnvironment] at gives
    obtain ⟨failed⟩ := holds
    exact .inr ⟨rfl, failed, gives⟩

theorem Gives.once {one two : Except SettingsError Settings} (first : Gives answers i one)
    (second : Gives answers i two) : one = two :=
  Option.some.inj (Option.some.inj (first.symm.trans second))

theorem runHeld (calls : Calls steps i) (gives : Gives ((start env).run steps) i (.ok s)) :
    ∃ j, j ≤ i ∧ Loads steps ((start env).run steps) j s ∧ Unclear steps j i ∧
      Settings.ofEnvironment (env.after (steps.take j)) = .ok s := by
  rcases callSource calls with ⟨j, t, before, loads, since, read, same⟩ | ⟨-, failed, read⟩
  · cases gives.once same
    exact ⟨j, Nat.le_of_lt before, loads, since, read⟩
  · have none : Unclear steps i i := fun c after before => absurd after (Nat.lt_asymm before)
    exact ⟨i, Nat.le_refl i, ⟨calls, gives, failed⟩, none, read.once gives⟩

theorem runKept (loads : Loads steps ((start env).run steps) j s) (later : j ≤ i)
    (unclear : Unclear steps j i) (calls : Calls steps i) :
    Gives ((start env).run steps) i (.ok s) := by
  rcases Nat.lt_or_eq_of_le later with before | rfl
  · rcases callSource calls with ⟨k, t, sooner, others, since, -, gives⟩ | ⟨-, failed, -⟩
    · obtain rfl := Nat.le_antisymm (loads.unpreceded others since before)
        (others.unpreceded loads unclear sooner)
      cases loads.gives.once others.gives
      exact gives
    · obtain ⟨e, wrong⟩ := failed j before loads.calls unclear
      cases loads.gives.once wrong
  · exact loads.gives

theorem runFailed (calls : Calls steps i) (gives : Gives ((start env).run steps) i (.error e)) :
    Settings.ofEnvironment (env.after (steps.take i)) = .error e ∧
      ((start env).after (steps.take (i + 1))).cached = none := by
  rcases callSource calls with ⟨j, s, -, -, -, -, same⟩ | ⟨empty, -, same⟩
  · cases gives.once same
  · have read := same.once gives
    have unread :
        Settings.ofEnvironment ((start env).after (steps.take i)).environment = .error e :=
      (congrArg Settings.ofEnvironment (afterEnvironment ..)).trans read
    refine ⟨read, ?_⟩
    rw [afterNext calls]
    change ((start env).after (steps.take i)).get.2.cached = none
    rw [getFailed empty unread]
    exact empty

theorem stepEmpty (empty : store.cached = none) (uncalled : step ≠ .get) :
    (store.step step).2.cached = none := by
  cases step with
  | get => exact absurd rfl uncalled
  | clear => rfl
  | _ => exact empty

theorem emptyKept {n : Nat} (empty : (store.after (steps.take i)).cached = none) (later : i ≤ n)
    (uncalled : ∀ k, i ≤ k → k < n → ¬Calls steps k) :
    (store.after (steps.take n)).cached = none := by
  induction later with
  | refl => exact empty
  | @step n later ih =>
    have still := ih fun k after before => uncalled k after (Nat.lt_succ_of_lt before)
    cases now : steps[n]? with
    | none => rwa [List.take_add_one, now, Option.toList_none, List.append_nil]
    | some step =>
      rw [afterNext now]
      refine stepEmpty still ?_
      rintro rfl
      exact uncalled n later (Nat.lt_succ_self n) now

theorem runPositive (gives : Gives ((start env).run steps) i (.ok s)) :
    Double.less 0 s.timeout = true := by
  have answer := gives
  rw [Gives, runAt] at answer
  cases now : steps[i]? with
  | none => simp [now] at answer
  | some step =>
    rw [now] at answer
    have told := Option.some.inj answer
    cases step with
    | get =>
      obtain ⟨j, -, -, -, read⟩ := runHeld now gives
      exact Settings.ofGivenPositive read
    | new given => exact Settings.ofGivenPositive (Option.some.inj told)
    | _ => cases told

theorem runConsistent (env : Environment) (steps : List SettingsStep) :
    Consistent env steps ((start env).run steps) where
  made i given now := by
    rw [Gives, runAt, now]
    change some (some (Settings.ofGiven ((start env).after (steps.take i)).environment given)) = _
    rw [afterEnvironment]
    rfl
  answered i calls := ⟨_, callGives _ calls⟩
  held i s := runHeld
  kept j i s := runKept
  failed i e := runFailed
  reread i e n calls gives later uncalled next := by
    obtain ⟨-, empty⟩ := runFailed calls gives
    have still := emptyKept empty later uncalled
    have answer := callGives (start env) next
    rw [getEmpty still, afterEnvironment] at answer
    exact answer
  positive i s := runPositive

end

theorem clearedTimeoutRead :
    let steps : List SettingsStep := [.set "WEB_INSPECTOR_TIMEOUT" "0", .get,
      .set "WEB_INSPECTOR_TIMEOUT" "5", .get, .set "web_inspector_timeout" "7", .get, .new [],
      .clear, .get]
    let answers := (start .empty).run steps
    Consistent .empty steps answers ∧
      answers.map (fun answer => answer.bind fun made => made.toOption.map Settings.timeout) =
        [none, none, none, some 5, none, some 5, some 7, none, some 7] :=
  ⟨runConsistent .empty _, by decide +kernel⟩

end SettingsStore

end PageAudit
