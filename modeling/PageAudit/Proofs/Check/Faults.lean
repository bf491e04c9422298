import PageAudit.Check.Table
import PageAudit.Proofs.Check.Numbers
import PageAudit.Proofs.Failure
import PageAudit.Proofs.Site
/-!
Which checks can give up, and on what. Quotients and excerpts of a first item are guarded wherever
they are taken; what is left are numbers of too many digits and addresses without a reading.
-/
namespace PageAudit

theorem quotientGuarded {part whole : Nat} (some : whole ≠ 0) :
    quotient part whole = .ok (Number.ratio part whole) := if_neg some

theorem shareGuarded {exempt : Bool} {bound : Rat} {part whole : Nat}
    (guarded : whole = 0 → exempt = true) :
    ∃ above, shareAbove exempt bound part whole = .ok above := by
  cases exempt with
  | true => exact ⟨true, rfl⟩
  | false =>
    have some : whole ≠ 0 := fun none => Bool.false_ne_true (guarded none)
    refine ⟨bound < Number.ratio part whole, ?_⟩
    simp only [shareAbove, quotientGuarded some]
    rfl

theorem shareCompared {bound : Rat} {part whole : Nat} {above : Bool}
    (ended : shareAbove false bound part whole = .ok above) :
    0 < whole ∧ above = decide (bound < Number.ratio part whole) := by
  obtain ⟨share, divided, later⟩ := bindOk.mp ended
  obtain rfl := Except.ok.inj later
  unfold quotient at divided
  split at divided
  · cases divided
  · rename_i some
    obtain rfl := Except.ok.inj divided
    exact ⟨Nat.pos_of_ne_zero some, rfl⟩

theorem excerptGuarded {s : Subject} {wanted : Bool} {found : List (List Char)} {context : Int}
    (guarded : found = [] → wanted = false) :
    ∃ evidence, s.excerptOfFirst wanted found context = .ok evidence := by
  cases found with
  | nil =>
    rw [guarded rfl]
    exact ⟨none, rfl⟩
  | cons text more =>
    cases wanted with
    | true => exact ⟨_, rfl⟩
    | false => exact ⟨none, rfl⟩

namespace Check

variable (s : Subject)

theorem altTextSure : ∃ v, altText s = .ok v := by
  unfold altText
  extract_lets images missing
  obtain ⟨evidence, same⟩ : ∃ evidence,
      s.excerptOfFirst (!missing.isEmpty) missing 1 = .ok evidence :=
    excerptGuarded fun none => by rw [none]; rfl
  rw [same]
  exact ⟨_, rfl⟩

theorem lazyLoadingSure : ∃ v, lazyLoading s = .ok v := by
  unfold lazyLoading
  extract_lets images waiting deferred asynchronous
  obtain ⟨above, same⟩ : ∃ above, shareAbove (images < 5) (1 / 2) waiting images = .ok above :=
    shareGuarded fun none => by rw [none]; rfl
  rw [same]
  exact ⟨_, rfl⟩

theorem layoutShiftSure : ∃ v, layoutShift s = .ok v := by
  unfold layoutShift
  extract_lets total sized unsized
  obtain ⟨above, share⟩ : ∃ above,
      shareAbove (total == 0) (Number.nearest (4 / 5)) sized total = .ok above :=
    shareGuarded fun none => by rw [none]; rfl
  obtain ⟨evidence, first⟩ : ∃ evidence,
      s.excerptOfFirst (!unsized.isEmpty) unsized 1 = .ok evidence :=
    excerptGuarded fun none => by rw [none]; rfl
  rw [share, first]
  exact ⟨_, rfl⟩

theorem renderBlockingSure : ∃ v, renderBlocking s = .ok v := by
  unfold renderBlocking
  extract_lets scripts stylesheets
  cases none : scripts.isEmpty with
  | true => exact ⟨_, rfl⟩
  | false =>
    obtain ⟨evidence, first⟩ : ∃ evidence, s.excerptOfFirst true scripts 2 = .ok evidence :=
      excerptGuarded fun empty => by rw [empty] at none; cases none
    simp only [Bool.false_eq_true, if_false, first]
    exact ⟨_, rfl⟩

theorem readabilitySure : ∃ v, readability s = .ok v := by
  have some : tokens s.markup ≠ 0 := Nat.succ_ne_zero _
  unfold readability
  extract_lets length
  rw [quotientGuarded some]
  exact ⟨_, rfl⟩

theorem addressedSure {parts : Url.Parts} (read : Url.parts s.site = .ok parts) :
    (∃ v, https s = .ok v) ∧ ∃ v, urlStructure s = .ok v := by
  have address : s.address = .ok parts := by rw [Subject.address, read]
  constructor
  · unfold https
    rw [address]
    exact ⟨_, rfl⟩
  · unfold urlStructure
    rw [address]
    exact ⟨_, rfl⟩

theorem numberError {digits : List Char} {e : CheckError} (refused : readNumber digits = .error e) :
    e.kind = "ValueError" := by
  unfold readNumber at refused
  split at refused
  · cases refused
    rfl
  · cases refused

theorem touchTargetsFail :
    (∃ e, touchTargets s = .error e) ↔
      ∃ m ∈ fontSize.matches? s.markup, maxDigits < m.group.length := by
  simp only [← numberRefused]
  rw [← mapMFails]
  unfold touchTargets
  cases (fontSize.matches? s.markup).mapM fun m => readNumber m.group with
  | error e => exact iff_of_true ⟨e, rfl⟩ ⟨e, rfl⟩
  | ok sizes => exact iff_of_false nofun nofun

theorem touchTargetsError {e : CheckError} (failed : touchTargets s = .error e) :
    e.kind = "ValueError" := by
  unfold touchTargets at failed
  rcases bindError.mp failed with stopped | ⟨sizes, -, finished⟩
  · obtain ⟨m, -, refused⟩ := mapMError stopped
    exact numberError refused
  · cases finished

theorem spacingScaleFails :
    (∃ e, spacingScale s = .error e) ↔
      ∃ declared ∈ s.findAll spacingDeclaration, maxDigits < declared.countP Text.isDigit := by
  have each : (∃ declared ∈ s.findAll spacingDeclaration,
      maxDigits < declared.countP Text.isDigit) ↔
      ∃ declared ∈ s.findAll spacingDeclaration, ∃ e, pixels declared = .error e :=
    exists_congr fun declared => and_congr_right fun found => (spacingRefused found).symm
  rw [each, ← mapMFails]
  unfold spacingScale
  cases (s.findAll spacingDeclaration).mapM pixels with
  | error e => exact iff_of_true ⟨e, rfl⟩ ⟨e, rfl⟩
  | ok sizes => exact iff_of_false nofun nofun

theorem spacingScaleError {e : CheckError} (failed : spacingScale s = .error e) :
    e.kind = "ValueError" := by
  unfold spacingScale at failed
  rcases bindError.mp failed with stopped | ⟨sizes, -, finished⟩
  · obtain ⟨declared, -, refused⟩ := mapMError stopped
    rw [pixelsRead] at refused
    exact numberError refused
  · cases finished

def Unreadable (site : String) (source : List Char) : Prop :=
  (∃ e, Url.resolve site (String.ofList source) = .error e) ∨
    ∃ target e, Url.resolve site (String.ofList source) = .ok target ∧ Url.parts target = .error e

theorem isForeignFails {site : String} (host : Option String) {source : List Char} :
    (∃ e, isForeign site host source = .error e) ↔
      isLocal source = false ∧ Unreadable site source := by
  unfold isForeign Unreadable
  cases isLocal source with
  | true => exact iff_of_false nofun nofun
  | false =>
    cases Url.resolve site (String.ofList source) with
    | error e => simp [bind, Except.bind]
    | ok target =>
      cases read : Url.parts target with
      | error e => simp [bind, Except.bind, read]
      | ok parts => simp [bind, Except.bind, read, pure, Except.pure]

theorem thirdPartyScriptsStopped {parts : Url.Parts} (read : Url.parts s.site = .ok parts)
    {e : Url.UrlError} (stopped : foreignScripts s parts.host? = .error e) :
    thirdPartyScripts s = .error (.address e) := by
  have address : s.address = .ok parts := by rw [Subject.address, read]
  unfold thirdPartyScripts
  rw [address]
  simp only [bind, Except.bind, stopped]
  rfl

theorem thirdPartyScriptsEnded {parts : Url.Parts} (read : Url.parts s.site = .ok parts)
    {foreign : List Pattern.Match} (ended : foreignScripts s parts.host? = .ok foreign) :
    ∃ v, thirdPartyScripts s = .ok v := by
  have address : s.address = .ok parts := by rw [Subject.address, read]
  unfold thirdPartyScripts
  rw [address]
  simp only [bind, Except.bind, ended]
  cases foreign with
  | nil => exact ⟨_, rfl⟩
  | cons m more =>
    obtain ⟨above, share⟩ : ∃ above, shareAbove false (Number.nearest (4 / 5))
        ((s.findAll scriptSource).filter nonBlockingMark.occursIn).length (m :: more).length =
          .ok above :=
      shareGuarded nofun
    obtain ⟨evidence, first⟩ : ∃ evidence,
        s.excerptOfFirst (!above) ((m :: more).map Pattern.Match.text) 1 = .ok evidence :=
      excerptGuarded nofun
    simp only [List.isEmpty_cons, share, first]
    exact ⟨_, rfl⟩

theorem thirdPartyScriptsFail {parts : Url.Parts} (read : Url.parts s.site = .ok parts) :
    (∃ e, thirdPartyScripts s = .error e) ↔
      ∃ m ∈ scriptSource.matches? s.markup,
        isLocal m.group = false ∧ Unreadable s.site m.group := by
  simp only [← isForeignFails parts.host?]
  rw [← filterMFails]
  change _ ↔ ∃ e, foreignScripts s parts.host? = .error e
  cases ended : foreignScripts s parts.host? with
  | error e => exact iff_of_true ⟨_, thirdPartyScriptsStopped s read ended⟩ ⟨e, rfl⟩
  | ok foreign =>
    exact iff_of_false (okUnfailed (thirdPartyScriptsEnded s read ended)) nofun

theorem thirdPartyScriptsError {parts : Url.Parts} (read : Url.parts s.site = .ok parts)
    {e : CheckError} (failed : thirdPartyScripts s = .error e) : e.kind = "ValueError" := by
  cases ended : foreignScripts s parts.host? with
  | error d =>
    rw [thirdPartyScriptsStopped s read ended] at failed
    cases failed
    rfl
  | ok foreign => exact absurd ⟨e, failed⟩ (okUnfailed (thirdPartyScriptsEnded s read ended))

end Check

def NamedCheck.Sure (check : NamedCheck) : Prop := ∀ s, ∃ v, check.run s = .ok v

def unsure : List String :=
  ["sec-001", "pwa-003", "seo-007", "httparch-001", "mobile-001", "carbon-001"]

theorem sureChecks (concern : String) (f : Subject → Verdict) : (NamedCheck.sure concern f).Sure :=
  fun s => ⟨f s, rfl⟩

theorem failingGives {f : Subject → Except CheckError Verdict} {s : Subject} {v : Verdict}
    (concern : String) (ended : f s = .ok v) : (NamedCheck.failing concern f).run s = .ok v := by
  simp only [NamedCheck.failing, Check.ofErrors, ended]

theorem failingRun {f : Subject → Except CheckError Verdict} {s : Subject} (concern : String)
    (ended : ∃ v, f s = .ok v) : ∃ v, (NamedCheck.failing concern f).run s = .ok v := by
  obtain ⟨v, verdict⟩ := ended
  exact ⟨v, failingGives concern verdict⟩

theorem failingEnded {concern : String} {f : Subject → Except CheckError Verdict} {s : Subject}
    {v : Verdict} (ended : (NamedCheck.failing concern f).run s = .ok v) : f s = .ok v := by
  simp only [NamedCheck.failing, Check.ofErrors] at ended
  cases judged : f s with
  | ok w =>
    rw [judged] at ended
    rw [Except.ok.inj ended]
  | error e =>
    rw [judged] at ended
    cases ended

theorem guardedChecks {f : Subject → Except CheckError Verdict} (sure : ∀ s, ∃ v, f s = .ok v)
    (concern : String) : (NamedCheck.failing concern f).Sure :=
  fun s => failingRun concern (sure s)

theorem tableSure : ∀ row ∈ checks, row.2.Sure ∨ row.1 ∈ unsure := by
  have guarded := And.intro (guardedChecks Check.altTextSure) <|
    And.intro (guardedChecks Check.lazyLoadingSure) <|
    And.intro (guardedChecks Check.layoutShiftSure) <|
    And.intro (guardedChecks Check.renderBlockingSure) (guardedChecks Check.readabilitySure)
  simp only [checks, List.forall_mem_append]
  refine ⟨⟨⟨⟨⟨⟨?_, ?_⟩, ?_⟩, ?_⟩, ?_⟩, ?_⟩, ?_⟩
  · simp [accessTable, sureChecks, guarded]
  · simp [loadingTable, sureChecks, guarded, unsure]
  · simp [discoveryTable, sureChecks, unsure]
  · simp [safetyTable, sureChecks, unsure]
  · simp [documentTable, sureChecks, unsure]
  · simp [scriptTable, sureChecks, guarded, unsure]
  · simp [visitTable, sureChecks, guarded, unsure]

theorem checkListed {table : CheckTable} {id : String} {check : NamedCheck}
    (found : table.find? id = some check) : (id, check) ∈ table := by
  induction table with
  | nil => cases found
  | cons row rest ih =>
    rw [CheckTable.find?, List.lookup_cons] at found
    split at found
    · rename_i same
      obtain rfl := beq_iff_eq.mp same
      obtain rfl := Option.some.inj found
      exact List.mem_cons_self
    · exact List.mem_cons_of_mem row (ih found)

def GivesUp (s : Subject) (id : String) : Prop :=
  (id = "mobile-001" ∧ ∃ m ∈ Check.fontSize.matches? s.markup, maxDigits < m.group.length) ∨
  (id = "carbon-001" ∧ ∃ declared ∈ s.findAll Check.spacingDeclaration,
    maxDigits < declared.countP Text.isDigit) ∨
  (id = "httparch-001" ∧ ∃ m ∈ Check.scriptSource.matches? s.markup,
    Check.isLocal m.group = false ∧ Check.Unreadable s.site m.group)

theorem givesUpUnsure {s : Subject} {id : String} (givesUp : GivesUp s id) : id ∈ unsure := by
  rcases givesUp with ⟨rfl, -⟩ | ⟨rfl, -⟩ | ⟨rfl, -⟩ <;> decide

structure FailsOn (check : NamedCheck) (s : Subject) (condition : Prop) : Prop where
  exactly : (∃ fault, check.run s = .error fault) ↔ condition
  kind : ∀ fault, check.run s = .error fault → fault.kind = "ValueError"

section
variable {s : Subject} {condition : Prop}

theorem FailsOn.never {check : NamedCheck} (ended : ∃ v, check.run s = .ok v)
    (never : ¬condition) : FailsOn check s condition where
  exactly := iff_of_false (okUnfailed ended) never
  kind fault failed := absurd ⟨fault, failed⟩ (okUnfailed ended)

theorem FailsOn.failing {concern : String} {f : Subject → Except CheckError Verdict}
    (fails : (∃ e, f s = .error e) ↔ condition)
    (kind : ∀ e, f s = .error e → e.kind = "ValueError") :
    FailsOn (.failing concern f) s condition := by
  cases ended : f s with
  | error e =>
    have run : (NamedCheck.failing concern f).run s = .error e.fault := by
      simp only [NamedCheck.failing, Check.ofErrors, ended]
    refine ⟨iff_of_true ⟨e.fault, run⟩ (fails.mp ⟨e, ended⟩), ?_⟩
    intro fault same
    obtain rfl := Except.error.inj (run.symm.trans same)
    exact kind e ended
  | ok v =>
    have unfailed := okUnfailed ⟨v, ended⟩
    exact .never (failingRun concern ⟨v, ended⟩) fun holds => unfailed (fails.mpr holds)

end

theorem checksGiveUp {given : Option String} {s : Subject}
    (accepted : validateSite given = .ok s.site) {id : String} {check : NamedCheck}
    (found : checks.find? id = some check) : FailsOn check s (GivesUp s id) := by
  obtain ⟨-, -, parts, ⟨read, -, -⟩⟩ := siteAccepted.mp accepted
  obtain ⟨https, urlStructure⟩ := Check.addressedSure s read
  by_cases member : id ∈ unsure
  · simp only [unsure, List.mem_cons, List.not_mem_nil, or_false] at member
    rcases member with rfl | rfl | rfl | rfl | rfl | rfl
    all_goals obtain rfl := Option.some.inj found
    · exact .never (failingRun _ https) (by simp [GivesUp])
    · exact .never (failingRun _ https) (by simp [GivesUp])
    · exact .never (failingRun _ urlStructure) (by simp [GivesUp])
    · exact .failing (by simpa [GivesUp] using Check.thirdPartyScriptsFail s read)
        fun _ => Check.thirdPartyScriptsError s read
    · exact .failing (by simpa [GivesUp] using Check.touchTargetsFail s)
        fun _ => Check.touchTargetsError s
    · exact .failing (by simpa [GivesUp] using Check.spacingScaleFails s)
        fun _ => Check.spacingScaleError s
  · have sure : check.Sure := (tableSure _ (checkListed found)).resolve_right member
    exact .never (sure s) fun givesUp => member (givesUpUnsure givesUp)

theorem unreadableScriptGivesUp :
    let s : Subject := ⟨"<script src='https://['>".toList, .empty, "https://a.b/"⟩
    validateSite (some "https://a.b/") = .ok s.site ∧ GivesUp s "httparch-001" ∧
    ∃ check fault, checks.find? "httparch-001" = some check ∧ check.run s = .error fault ∧
      fault.kind = "ValueError" := by
  intro s
  have accepted : validateSite (some "https://a.b/") = .ok s.site := by decide +kernel
  have found : (⟨"<script src='https://['".toList, "https://[".toList⟩ : Pattern.Match) ∈
      Check.scriptSource.matches? s.markup := by
    decide +kernel
  have unresolved : Url.resolve s.site (String.ofList "https://[".toList) =
      .error .misplacedBracket := by
    decide +kernel
  have givesUp : GivesUp s "httparch-001" :=
    .inr (.inr ⟨rfl, _, found, by decide, .inl ⟨_, unresolved⟩⟩)
  have fails : FailsOn (.failing "third party scripts" Check.thirdPartyScripts) s
      (GivesUp s "httparch-001") :=
    checksGiveUp accepted rfl
  obtain ⟨fault, failed⟩ := fails.exactly.mpr givesUp
  exact ⟨accepted, givesUp, _, fault, rfl, failed, fails.kind fault failed⟩

theorem blankAfterSiteGivesUp :
    validateSite (some "https://[::1] ") = .ok "https://[::1]" ∧
    ∃ check, checks.find? "sec-001" = some check ∧
      check.run ⟨[], .empty, "https://[::1] "⟩ = .error ⟨"ValueError", "Invalid IPv6 URL"⟩ := by
  refine ⟨by decide +kernel, _, rfl, ?_⟩
  have unread : Url.parts "https://[::1] " = .error .misplacedBracket := by decide +kernel
  simp only [NamedCheck.failing, Check.ofErrors, Check.https, Subject.address, unread]
  rfl

end PageAudit
