import PageAudit.Proofs.Audit.Basic
import PageAudit.Proofs.CommandLine.Scan
/-!
An address in place of a command. It stands for a scan of it exactly if there is a point in it;
without one it is taken for a command that does not exist.
-/
namespace PageAudit.CommandLine

def similarCommands (name : String) : List String :=
  Text.closest name (CommandName.all.map CommandName.text)

section
variable {given : Setting} {url site name : String}

theorem siteNoOption (accepted : validateSite (some url) = .ok site) :
    Text.startsWith url "-" = false := by
  refine Bool.eq_false_iff.mpr fun starts => ?_
  cases acceptedStarts accepted starts (c := '-') rfl (by decide) (by decide)

theorem siteNoCommand (accepted : validateSite (some url) = .ok site) :
    CommandName.ofText? url = none := by
  cases found : CommandName.ofText? url with
  | none => rfl
  | some c =>
    have named : c.text = url := by simpa using List.find?_some found
    have starts : Text.startsWith url c.text = true := by
      rw [named]
      exact List.isPrefixOf_iff_prefix.mpr List.prefix_rfl
    cases c with
    | rules => cases acceptedStarts accepted starts (c := 'r') rfl (by decide) (by decide)
    | _ => cases acceptedStarts accepted starts (c := 's') rfl (by decide) (by decide)

theorem siteNoHost (accepted : validateSite (some url) = .ok site) :
    Text.startsWith url "localhost" = false := by
  refine Bool.eq_false_iff.mpr fun starts => ?_
  cases acceptedStarts accepted starts (c := 'l') rfl (by decide) (by decide)

/- The only part of the guess that an accepted address can meet is the point. -/
theorem siteLooks (accepted : validateSite (some url) = .ok site) :
    looksLikeSite url = Text.mentions url "." := by
  simp only [looksLikeSite, siteNoOption accepted, siteNoCommand accepted, siteNoHost accepted,
    Bool.not_false, Option.isNone_none, Bool.true_and, Bool.or_false]

theorem startUnknown (dashless : Text.startsWith name "-" = false)
    (unknown : CommandName.ofText? name = none) (rest : List String) :
    readStart (name :: rest) = .error (.noCommand name (similarCommands name)) := by
  simp only [readStart, programUnread dashless, unknown, similarCommands]

theorem auditUnmistaken {s : Settings} {a : ScanArguments} {f : Finish}
    (ended : audit given s a = .ok f) : f.mistake = [] := by
  unfold audit at ended
  dsimp only at ended
  split at ended
  · obtain ⟨lines, -, rfl⟩ := mapOk.mp ended
    rfl
  · cases ended
  · cases ended
  · obtain ⟨lines, -, rfl⟩ := mapOk.mp ended
    rfl

theorem scanUnmistaken {s : Settings} {a : ScanArguments} {f : Finish}
    (ended : scan given s a = .ok f) : f.mistake = [] := by
  unfold scan at ended
  split at ended
  · exact auditUnmistaken ended
  · split at ended
    · cases ended
    · exact auditUnmistaken ended

theorem actUnmistaken {s : Settings} {c : CommandName} {action : Action} {f : Finish}
    (ended : act given s c action = .ok f) : f.mistake = [] := by
  cases action with
  | scan a =>
    unfold act at ended
    exact scanUnmistaken ended
  | rules token =>
    unfold act at ended
    obtain ⟨lines, -, rfl⟩ := mapOk.mp ended
    rfl
  | _ =>
    unfold act at ended
    obtain rfl := Except.ok.inj ended
    rfl

theorem namedUnlike (given : Setting) (c : CommandName) (args : List String) (e : UsageError) :
    run given (c.text :: args) ≠ .ok (.mistaken none e) := by
  intro ended
  rw [runNamed] at ended
  unfold runCommand at ended
  split at ended
  · cases ended
  · split at ended
    · have said := congrArg Finish.mistake (Except.ok.inj ended)
      have usage : usageLine (some c) = usageLine none := (List.cons.inj said).1
      revert usage
      cases c <;> decide
    · have silent := actUnmistaken ended
      cases silent

end

theorem bareAddressScanned {given : Setting} {url site : String}
    (accepted : validateSite (some url) = .ok site) (rest : List String) :
    (Text.mentions url "." = true →
      withScan (url :: rest) = withScan (CommandName.scan.text :: url :: rest)) ∧
    (Text.mentions url "." = false →
      run given (url :: rest) = .ok (.mistaken none (.noCommand url (similarCommands url)))) ∧
    (run given (url :: rest) = run given (CommandName.scan.text :: url :: rest) ↔
      Text.mentions url "." = true) := by
  have looks := siteLooks accepted
  have pointed (point : Text.mentions url "." = true) :
      withScan (url :: rest) = withScan (CommandName.scan.text :: url :: rest) := by
    rw [withScanNamed]
    simp only [withScan, looks, point, if_true]
  have pointless (missing : Text.mentions url "." = false) :
      run given (url :: rest) = .ok (.mistaken none (.noCommand url (similarCommands url))) := by
    have start : readStart (withScan (url :: rest)) =
        .error (.noCommand url (similarCommands url)) := by
      simp only [withScan, looks, missing, Bool.false_eq_true, if_false]
      exact startUnknown (siteNoOption accepted) (siteNoCommand accepted) rest
    simp only [run, start]
  refine ⟨pointed, pointless, ?_⟩
  cases point : Text.mentions url "." with
  | true => exact iff_of_true (by simp only [run, pointed point]) rfl
  | false =>
    refine iff_of_false ?_ Bool.false_ne_true
    rw [pointless point]
    exact (namedUnlike given .scan (url :: rest) _).symm

theorem pointedAddressScanned :
    let given : Setting := ⟨.always ⟨200, .empty, []⟩, .empty, "now"⟩
    let rest := ["--source", "none-such", "--json"]
    validateSite (some " https://a.b/") = .ok "https://a.b/" ∧
    run given (" https://a.b/" :: rest) = run given ("scan" :: " https://a.b/" :: rest) := by
  intro given rest
  have accepted : validateSite (some " https://a.b/") = .ok "https://a.b/" := by decide
  exact ⟨accepted, (bareAddressScanned accepted rest).2.2.mpr (by decide)⟩

theorem localAddressUnscanned :
    let env := (Environment.empty.set "WEB_INSPECTOR_USER_AGENT" "a").set "WEB_INSPECTOR_ACCEPT" "b"
    let given : Setting := ⟨.always ⟨200, .empty, []⟩, env, "now"⟩
    let rest := ["--source", "none-such", "--json"]
    validateSite (some "http://localhost/") = .ok "http://localhost/" ∧
    (run given ("http://localhost/" :: rest)).toOption.map Finish.exitCode = some 2 ∧
    (run given ("scan" :: "http://localhost/" :: rest)).toOption.map Finish.exitCode = some 0 := by
  decide +kernel

end PageAudit.CommandLine
