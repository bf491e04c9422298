import PageAudit.Proofs.Audit.Basic
import PageAudit.Proofs.CommandLine.Scan
import PageAudit.Proofs.Settings
/-!
The settings that a scan audits with. A timeout on the command line takes the place of the one that
was read and checked, and is not checked itself: it may be zero, less than zero or no number.
-/
namespace PageAudit.CommandLine

open Number (Double typedDecimal?)

def ScanArguments.isShowable (a : ScanArguments) : Bool :=
  a.asJson || (written (progressText (normalizeUrl a.site))).isOk

def auditOf? (given : Setting) (args : List String) : Option (Settings × ScanArguments) :=
  match readStart (withScan args), readSettings given.environment with
  | .ok (.command c rest), .ok s =>
    match readAction c rest with
    | .ok (.scan a) =>
      if a.isShowable then some (withTimeout s a.timeout, a) else none
    | _ => none
  | _, _ => none

def concluded (a : ScanArguments) : Except AuditError Analysis × World → Except Crash Finish
  | (.error (.site e), w) =>
    (written s!"\n[red]Error:[/red] {e.message}").map fun lines => ⟨1, lines, [], none, w⟩
  | (.error (.settings e), _) => .error (.settings e)
  | (.error (.broken fault), _) => .error (.broken fault)
  | (.ok result, w) => (scanLines a result).map fun lines => .wrote lines w

def Setting.audited (given : Setting) (s : Settings) (a : ScanArguments) :
    Except AuditError Analysis × World :=
  (given.auditor s).analyze (some (normalizeUrl a.site)) (some a.source) .start

section
variable {given : Setting} {args : List String} {s read : Settings} {a : ScanArguments}

theorem auditConcluded (given : Setting) (s : Settings) (a : ScanArguments) :
    audit given s a = concluded a (given.audited (withTimeout s a.timeout) a) := by
  unfold audit Setting.audited Setting.auditor
  dsimp only
  generalize Auditor.analyze _ _ _ _ = answer
  rcases answer with ⟨outcome, w⟩
  cases outcome with
  | ok result => rfl
  | error e => cases e <;> rfl

theorem scanAudits (showable : a.isShowable = true) : scan given s a = audit given s a := by
  unfold scan
  cases json : a.asJson with
  | true => rw [if_pos rfl]
  | false =>
    rw [if_neg Bool.false_ne_true]
    cases progress : written (progressText (normalizeUrl a.site)) with
    | ok lines => rfl
    | error e =>
      simp [ScanArguments.isShowable, json, progress, Except.isOk, Except.toBool] at showable

theorem scanUnaudited (unshowable : a.isShowable = false) (t : Transport) (now : String) :
    scan ⟨t, given.environment, now⟩ s a = scan given s a := by
  obtain ⟨table, unread⟩ := Bool.or_eq_false_iff.mp unshowable
  unfold scan
  simp only [table, Bool.false_eq_true, if_false]
  cases progress : written (progressText (normalizeUrl a.site)) with
  | ok lines => simp [progress, Except.isOk, Except.toBool] at unread
  | error e => rfl

theorem actUnaudited {c : CommandName} {action : Action}
    (unlike : ∀ a, action = .scan a → a.isShowable = false) (t : Transport) (now : String) :
    act ⟨t, given.environment, now⟩ s c action = act given s c action := by
  cases action with
  | scan a =>
    unfold act
    exact scanUnaudited (unlike a rfl) t now
  | _ => simp only [act]

theorem settingsRead (known : readSettings given.environment = .ok s) :
    Settings.ofEnvironment given.environment = .ok s ∧ ∃ rank, levelRank s.logLevel = .ok rank := by
  unfold readSettings at known
  split at known
  · cases known
  · split at known
    · cases known
    · rename_i read _ rank level
      cases known
      exact ⟨read, rank, level⟩

theorem runAudits (planned : auditOf? given args = some (s, a)) :
    ∃ read, Settings.ofEnvironment given.environment = .ok read ∧ s = withTimeout read a.timeout ∧
      run given args = concluded a (given.audited s a) := by
  unfold auditOf? at planned
  split at planned
  · rename_i c rest read start settings
    split at planned
    · rename_i b action
      cases showable : b.isShowable with
      | false => simp [showable] at planned
      | true =>
        rw [if_pos showable] at planned
        cases planned
        obtain ⟨known, level⟩ := settingsRead settings
        refine ⟨read, known, rfl, ?_⟩
        rw [← auditConcluded, ← scanAudits showable]
        simp only [run, start, runCommand, settings, action, act]
    · cases planned
  · cases planned

theorem runUnaudited (unplanned : auditOf? given args = none) (t : Transport) (now : String) :
    run ⟨t, given.environment, now⟩ args = run given args := by
  unfold run
  cases start : readStart (withScan args) with
  | error e => rfl
  | ok started =>
    cases started with
    | command c rest =>
      dsimp only
      unfold runCommand
      dsimp only
      cases settings : readSettings given.environment with
      | error e => rfl
      | ok s =>
        dsimp only
        cases read : readAction c rest with
        | error e => rfl
        | ok action =>
          refine actUnaudited (fun a same => ?_) t now
          subst same
          simpa [auditOf?, start, settings, read] using unplanned
    | _ => rfl

def timeoutForm : OptionForm := CommandName.scan.forms[2]

theorem timeoutRead {url value : String} {x : Double} (web : NamesWeb url)
    (typed : typedDecimal? value = some x) :
    readAction .scan [url, "--timeout", value, "--json"] =
      .ok (.scan ⟨url, "all", false, some x, true⟩) := by
  obtain ⟨argument, dashes⟩ := webNoOption web
  have timeout : readOption CommandName.scan.forms "--timeout" =
      .ok ([], some (timeoutForm, "--timeout")) := by decide
  have json : readOption CommandName.scan.forms "--json" = .ok ([(jsonForm, "")], none) := by
    decide
  have options : isOption "--timeout" = true ∧ isOption "--json" = true := by decide
  have given : readArguments CommandName.scan.forms true [url, "--timeout", value, "--json"] =
      .ok ⟨[(timeoutForm, value), (jsonForm, "")], [url]⟩ := by
    simp [readArguments, argument, dashes, timeout, json, options, Except.map, Given.after]
  have helpless : (⟨[(timeoutForm, value), (jsonForm, "")], [url]⟩ : Given).has "help" = false :=
    rfl
  have last : (⟨[(timeoutForm, value), (jsonForm, "")], [url]⟩ : Given).value? "timeout" =
      some value := rfl
  have number : accepts .decimal value = true := by simp only [accepts, typed, Option.isSome_some]
  have fine : refused? ⟨[(timeoutForm, value), (jsonForm, "")], [url]⟩ = none := by
    have decimal : timeoutForm.kind = .decimal := rfl
    have name : timeoutForm.name = "timeout" := rfl
    simp only [refused?, List.findSome?_cons, name, last, decimal, number, if_true]
    rfl
  simp only [readAction, given, helpless, fine]
  rw [← typed]
  rfl

theorem overridePositive (positive : Double.less 0 read.timeout = true) (typed : Option Double) :
    Double.less 0 (withTimeout read typed).timeout = true ↔
      ∀ x, typed = some x → Double.less 0 x = true := by
  cases typed with
  | none => exact iff_of_true positive nofun
  | some x => simp [withTimeout]

end

theorem typedTimeoutUnchecked (given : Setting) (args : List String) :
    (∀ s a, auditOf? given args = some (s, a) →
      run given args = concluded a (given.audited s a) ∧
      ∃ read, Settings.ofEnvironment given.environment = .ok read ∧
        Double.less 0 read.timeout = true ∧
        s = { read with timeout := a.timeout.getD read.timeout } ∧
        (Double.less 0 s.timeout = true ↔ ∀ x, a.timeout = some x → Double.less 0 x = true)) ∧
    (auditOf? given args = none →
      ∀ t now, run ⟨t, given.environment, now⟩ args = run given args) ∧
    ∀ (read : Settings) (url value : String) (x : Double),
      readSettings given.environment = .ok read → NamesWeb url → typedDecimal? value = some x →
      auditOf? given ["scan", url, "--timeout", value, "--json"] =
        some ({ read with timeout := x }, ⟨url, "all", false, some x, true⟩) := by
  refine ⟨?_, runUnaudited, ?_⟩
  · intro s a planned
    obtain ⟨read, known, rfl, ended⟩ := runAudits planned
    have positive := Settings.ofGivenPositive known
    refine ⟨ended, read, known, positive, ?_, overridePositive positive a.timeout⟩
    cases a.timeout <;> rfl
  · intro read url value x known web typed
    have start := startNamed .scan [url, "--timeout", value, "--json"]
    rw [CommandName.text] at start
    simp only [auditOf?, start, known, timeoutRead web typed]
    rfl

theorem shortTimeoutAudited :
    let given : Setting := ⟨.always ⟨200, .empty, []⟩, .empty, "now"⟩
    let args := ["https://a.b/", "-t2.5", "--source", "none-such"]
    let s : Settings := { Settings.unset with timeout := .ofRat 2.5 }
    let a : ScanArguments := ⟨"https://a.b/", "none-such", false, some (.ofRat 2.5), false⟩
    auditOf? given args = some (s, a) ∧ run given args = concluded a (given.audited s a) ∧
      Double.less 0 s.timeout = true := by
  intro given args s a
  have planned : auditOf? given args = some (s, a) := by decide +kernel
  obtain ⟨ended, read, -, -, -, positive⟩ := (typedTimeoutUnchecked given args).1 s a planned
  refine ⟨planned, ended, positive.mpr ?_⟩
  rintro _ ⟨rfl⟩
  decide +kernel

theorem zeroTimeoutAudited :
    let env := (Environment.empty.set "WEB_INSPECTOR_USER_AGENT" "a").set "WEB_INSPECTOR_ACCEPT" "b"
    let given : Setting := ⟨.always ⟨200, .empty, []⟩, env, "now"⟩
    let args (value : String) :=
      ["scan", "https://a.b/", "--source", "none-such", "--timeout", value, "--json"]
    let audited (value : String) :=
      (auditOf? given (args value)).map fun planned => planned.1.timeout
    let sent (value : String) :=
      (run given (args value)).toOption.map fun f => f.world.requests.map Request.timeout
    audited "0" = some 0 ∧ Double.less 0 0 = false ∧ sent "0" = some [] ∧
    audited "nan" = some .nan ∧ Double.less 0 .nan = false ∧ sent "nan" = some [.nan] := by
  decide +kernel

end PageAudit.CommandLine
