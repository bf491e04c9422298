import PageAudit.Check.Loading
import PageAudit.Proofs.Text.Parted
import PageAudit.Proofs.Url.Resolve
/-!
Scripts of other hosts. A script counts if its source, resolved against the site, leads to another
host; only a source that names its host after two slashes is taken for a path and passed over.
-/
namespace PageAudit.Check

open Pattern Number

def Tells (v : Verdict) (foreign free : Nat) : Prop :=
  ∃ share : Int, v.details =
    s!"{foreign} third-party scripts, {free} loaded async/defer " ++ s!"({share}%)"

/-- The source leads from the site to another host. One that cannot be resolved leads nowhere. -/
def isElsewhere (site : String) (host : Option String) (source : List Char) : Bool :=
  match Url.hostFrom site source with
  | .ok other => other != host
  | .error _ => false

def otherScripts (s : Subject) (host : Option String) : List Match :=
  (scriptSource.matches? s.markup).filter fun m => isElsewhere s.site host m.group

def namesHost (source : List Char) : Bool :=
  ['/'].isPrefixOf source && ['/', '/'].isPrefixOf (Url.counted source)

section
variable {s : Subject} {v : Verdict} {n n' free free' : Nat}

theorem tellsAlike (told : Tells v n free) (again : Tells v n' free') : n = n' ∧ free = free' := by
  obtain ⟨share, told⟩ := told
  obtain ⟨share', again⟩ := again
  have same := congrArg String.toList (told.symm.trans again)
  simp only [String.toList_append, List.append_assoc] at same
  obtain ⟨foreign, same⟩ := Text.countAlike (by decide) same
  obtain ⟨free, -⟩ := Text.countAlike (by decide) same
  exact ⟨foreign, free⟩

theorem thirdPartyTells (judged : thirdPartyScripts s = .ok v) :
    ∃ parts foreign, s.address = .ok parts ∧ foreignScripts s parts.host? = .ok foreign ∧
      Tells v foreign.length ((s.findAll scriptSource).filter nonBlockingMark.occursIn).length := by
  obtain ⟨address, located, later⟩ := bindOk.mp judged
  split at later
  · cases later
  · rename_i foreign listed
    obtain ⟨passed, -, later⟩ := bindOk.mp later
    obtain ⟨evidence, -, ended⟩ := bindOk.mp later
    obtain rfl := Except.ok.inj ended
    exact ⟨address, foreign, located, listed, percent _ foreign.length, rfl⟩

theorem localOnPath {source : List Char} (stays : isLocal source = true)
    (unnamed : namesHost source = false) : Url.OnPath source := by
  rcases Bool.or_eq_true_iff.mp stays with slash | point
  · refine ⟨.inl (List.isPrefixOf_iff_prefix.mp slash), fun located => ?_⟩
    rw [namesHost, slash, Bool.true_and, Bool.eq_false_iff] at unnamed
    exact unnamed (List.isPrefixOf_iff_prefix.mpr located)
  · have starts := List.isPrefixOf_iff_prefix.mp point
    refine ⟨.inr starts, fun located => ?_⟩
    obtain ⟨more, rfl⟩ := starts
    change _ <+: Url.counted ('.' :: '/' :: more) at located
    rw [Url.countedFrom (by decide) rfl] at located
    obtain ⟨rest, same⟩ := located
    cases same

theorem localOrNamed {site : String} {parts : Url.Parts} {source : List Char}
    (onWeb : OnWeb site parts) (away : isElsewhere site parts.host? source = true) :
    isLocal source = namesHost source := by
  cases named : namesHost source with
  | true =>
    obtain ⟨slash, -⟩ := Bool.and_eq_true_iff.mp named
    exact Bool.or_eq_true_iff.mpr (.inl slash)
  | false =>
    refine Bool.eq_false_iff.mpr fun stays => ?_
    have onPath : Url.OnPath source := localOnPath stays named
    rw [isElsewhere, onPathHost onWeb onPath] at away
    simp at away

theorem foreignJudged {site : String} {host : Option String} {source : List Char} {b : Bool}
    (judged : isForeign site host source = .ok b) :
    b = (!isLocal source && isElsewhere site host source) := by
  unfold isForeign at judged
  unfold isElsewhere Url.hostFrom
  cases stays : isLocal source with
  | true =>
    rw [stays] at judged
    exact (Except.ok.inj judged).symm
  | false =>
    simp only [stays, Bool.false_eq_true, if_false] at judged
    obtain ⟨target, resolved, judged⟩ := bindOk.mp judged
    obtain ⟨parts, read, ended⟩ := bindOk.mp judged
    obtain rfl := Except.ok.inj ended
    simp only [resolved, bind, Except.bind, read]
    rfl

theorem foreignListed {parts : Url.Parts} {foreign : List Match} (onWeb : OnWeb s.site parts)
    (listed : foreignScripts s parts.host? = .ok foreign) :
    foreign = (otherScripts s parts.host?).filter fun m => !namesHost m.group := by
  have judgedApart : foreign = (scriptSource.matches? s.markup).filter fun m =>
      !isLocal m.group && isElsewhere s.site parts.host? m.group :=
    filterMFilter (fun _ _ _ judged => foreignJudged judged) listed
  rw [judgedApart, ← List.filter_filter]
  refine List.filter_congr fun m member => ?_
  rw [localOrNamed onWeb (List.mem_filter.mp member).2]

theorem foreignScriptsTold {given : Option String} (accepted : validateSite given = .ok s.site)
    (judged : thirdPartyScripts s = .ok v) :
    ∃ parts, Url.parts s.site = .ok parts ∧
      (∃ free, Tells v ((otherScripts s parts.host?).filter fun m => !namesHost m.group).length
        free) ∧
      ((∃ free, Tells v (otherScripts s parts.host?).length free) ↔
        ∀ m ∈ otherScripts s parts.host?, namesHost m.group = false) := by
  obtain ⟨-, -, parts, onWeb⟩ := siteAccepted.mp accepted
  obtain ⟨address, foreign, located, listed, told⟩ := thirdPartyTells judged
  obtain rfl : address = parts := by
    rw [Subject.address, onWeb.read] at located
    exact (Except.ok.inj located).symm
  rw [foreignListed onWeb listed] at told
  have exactly : ∀ n, (∃ free, Tells v n free) ↔
      n = ((otherScripts s address.host?).filter fun m => !namesHost m.group).length := by
    intro n
    constructor
    · rintro ⟨free, again⟩
      exact (tellsAlike again told).1
    · rintro rfl
      exact ⟨_, told⟩
  refine ⟨address, onWeb.read, ⟨_, told⟩, ?_⟩
  rw [exactly, eq_comm, List.length_filter_eq_length_iff]
  simp only [Bool.not_eq_true']

theorem otherHostTold :
    let s : Subject :=
      ⟨"<script src='/y.js'><script src='https://c.d/x.js'>".toList, .empty, "https://a.b/"⟩
    validateSite (some "https://a.b/") = .ok s.site ∧
      ∃ v, thirdPartyScripts s = .ok v ∧ ∃ free, Tells v 1 free := by
  intro s
  have accepted : validateSite (some "https://a.b/") = .ok s.site := by decide +kernel
  have details : (thirdPartyScripts s).map Verdict.details =
      .ok "1 third-party scripts, 0 loaded async/defer (0%)" := by decide +kernel
  obtain ⟨v, judged, -⟩ := mapOk.mp details
  obtain ⟨parts, read, -, exactly⟩ := foreignScriptsTold accepted judged
  have host : parts.host? = some "a.b" := by
    have known : Url.parts s.site = .ok ⟨"https".toList, "a.b".toList, ['/'], [], [], []⟩ := by
      decide +kernel
    obtain rfl := Except.ok.inj (read.symm.trans known)
    decide +kernel
  have one : (otherScripts s (some "a.b")).length = 1 := by decide +kernel
  rw [host, one] at exactly
  exact ⟨accepted, v, judged, exactly.mpr (by decide +kernel)⟩

theorem slashedHostUntold :
    let s : Subject := ⟨"<script src='//c.d/x.js'>".toList, .empty, "https://a.b/"⟩
    validateSite (some "https://a.b/") = .ok s.site ∧
      Url.hostFrom s.site "//c.d/x.js".toList = .ok (some "c.d") ∧
      ∃ v, thirdPartyScripts s = .ok v ∧ Tells v 0 0 ∧ ¬∃ free, Tells v 1 free := by
  intro s
  have details : (thirdPartyScripts s).map Verdict.details =
      .ok "0 third-party scripts, 0 loaded async/defer (0%)" := by decide +kernel
  obtain ⟨v, judged, shown⟩ := mapOk.mp details
  have told : Tells v 0 0 := ⟨0, shown.trans (by decide +kernel)⟩
  refine ⟨by decide +kernel, by decide +kernel, v, judged, told, ?_⟩
  rintro ⟨free, more⟩
  obtain ⟨same, -⟩ := tellsAlike more told
  cases same

end

end PageAudit.Check
