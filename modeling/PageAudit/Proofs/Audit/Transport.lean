import PageAudit.Proofs.Audit.Warning
import PageAudit.Proofs.Check.Faults
import PageAudit.Proofs.Fetch.Hops
import PageAudit.Proofs.Http.Address
/-!
Transport security. It is judged by the address that was given, which is the one of the first
request; the page may come from where the first response points.
-/
namespace PageAudit

def transportRules : List String := ["sec-001", "pwa-003"]

namespace Fetch

/-- The first and the last request of a fetch, and the response to the last one, which the page is
made of. -/
structure Supplied (t : Transport) (sent : Nat) (requests : List Request) (page : Page)
    (first last : Request) (r : Response) : Prop where
  head : requests.head? = some first
  latest : requests.getLast? = some last
  answer : (t (sent + (requests.length - 1))).answer = .response r
  made : MadeOf t last r page

def LeadsAway (t : Transport) (url : String) (sent : Nat) : Prop :=
  ∃ r location target address, (t sent).answer = .response r ∧ Points r location ∧
    Url.resolve url location = .ok target ∧ Http.requestAddress target = .ok address ∧
    address.scheme ≠ "https".toList

section
variable {t : Transport} {s : Settings} {clock c : Number.Double} {sent : Nat} {url : String}
  {requests : List Request} {page : Page}

theorem leadsAway {r : Response} {location target : String} {address : Http.Address}
    (answer : (t sent).answer = .response r) (pointed : location? r = some location)
    (resolved : Url.resolve url location = .ok target)
    (addressed : Http.requestAddress target = .ok address) :
    LeadsAway t url sent ↔ address.scheme ≠ "https".toList := by
  constructor
  · rintro ⟨q, other, destination, its, answered, points, found, read, foreign⟩
    obtain rfl := Answer.response.inj (answer.symm.trans answered)
    obtain rfl := Option.some.inj (pointed.symm.trans (pointsTo.mpr points))
    obtain rfl := Except.ok.inj (resolved.symm.trans found)
    obtain rfl := Except.ok.inj (addressed.symm.trans read)
    exact foreign
  · exact fun foreign =>
      ⟨r, location, target, address, answer, pointsTo.mp pointed, resolved, addressed, foreign⟩

theorem Course.supplied (course : Course t s url clock sent requests c (.ok page)) :
    ∃ a first last r, Http.requestAddress url = .ok a ∧ a.isAbsolute = true ∧
      first.url = a.write ∧ Supplied t sent requests page first last r ∧
      (Http.Secure first.url → (Http.Secure last.url ↔ ¬LeadsAway t url sent)) := by
  cases course with
  | page one settled success =>
    obtain ⟨q, a, rfl, -, -, rfl, named, received⟩ := one.source
    refine ⟨a, q, q, _, received.addressed, received.absolute, named,
      ⟨rfl, rfl, received.response, madeOfResponse⟩, fun secure => iff_of_true secure ?_⟩
    rintro ⟨r, location, -, -, answer, points, -⟩
    obtain rfl := Answer.response.inj (received.response.symm.trans answer)
    exact pointsNowhere.mp settled location points
  | followed one pointed resolved two =>
    obtain ⟨q, a, rfl, -, -, rfl, named, received⟩ := one.source
    obtain ⟨p, b, rfl, -, -, rfl, its, came⟩ := two.source
    refine ⟨a, q, p, _, received.addressed, received.absolute, named,
      ⟨rfl, rfl, came.response, madeOfResponse⟩, fun _ => ?_⟩
    rw [leadsAway received.response pointed resolved came.addressed, its,
      Http.readSecure came.addressed came.absolute, not_not]

end

end Fetch

namespace Check

theorem httpsVerdict {s : Subject} {parts : Url.Parts} (read : Url.parts s.site = .ok parts)
    {r : Rule} (member : r.id ∈ transportRules) :
    ((verdictOn checks s r).passed = true ↔ parts.scheme = "https".toList) ∧
      ((verdictOn checks s r).details = "Site uses HTTPS encryption." ↔
        parts.scheme = "https".toList) := by
  have found : checks.find? r.id = some (.failing "https" https) := by
    simp only [transportRules, List.mem_cons, List.not_mem_nil, or_false] at member
    rcases member with same | same <;> rw [same] <;> rfl
  have address : s.address = .ok parts := by simp only [Subject.address, read]
  obtain ⟨advice, judged⟩ : ∃ advice, https s = .ok (.plain (parts.scheme == "https".toList)
      (if parts.scheme == "https".toList then "Site uses HTTPS encryption."
        else "Site uses insecure HTTP protocol.") advice) := by
    simp only [https, address]
    exact ⟨_, rfl⟩
  simp only [verdictOn, evaluateRule, found, NamedCheck.failing, ofErrors, judged, Verdict.plain]
  have same : (parts.scheme == "https".toList) = true ↔ parts.scheme = "https".toList := beq_iff_eq
  generalize (parts.scheme == "https".toList) = secure at same ⊢
  rw [← same]
  cases secure with
  | true => exact ⟨Iff.rfl, iff_of_true rfl rfl⟩
  | false => exact ⟨Iff.rfl, iff_of_false (by decide) Bool.false_ne_true⟩

end Check

namespace Auditor

theorem transportTold {clean : String} {parts : Url.Parts} (onWeb : OnWeb clean parts)
    (auditor : Auditor) (token : Option String) (page : Page) {rule : Rule}
    (selected : rule ∈ select token catalog) (member : rule.id ∈ transportRules) :
    (∃ v ∈ (auditor.judged clean token page).violations, v.id = rule.id) ↔
      parts.scheme ≠ "https".toList := by
  have reconciles : Analysis.Reconciles (verdictOn checks (page.subject clean))
      (select token catalog) clean (auditor.judged clean token page) :=
    Analysis.ofJudgedReconciles (selectedIdsDistinct token) (selectedAdvises token) ..
  obtain ⟨passes, -⟩ := Check.httpsVerdict (s := page.subject clean) onWeb.read member
  rw [reconciles.told (selectedIdsDistinct token) selected, ne_eq, ← passes, Bool.not_eq_true]

theorem transportJudgedOnSite {auditor : Auditor} {s : Settings} {site : Option String}
    {clean : String} {page : Page} {w : World} (accepted : validateSite site = .ok clean)
    (read : auditor.settings = .ok s) (fetched : (fetch auditor.transport s clean w).1 = .ok page)
    (token : Option String) :
    ∃ parts a requests first last r, OnWeb clean parts ∧
      (auditor.analyze site token w).1 = .ok a ∧
      (auditor.analyze site token w).2.requests = w.requests ++ requests ∧
      Fetch.Supplied auditor.transport w.requests.length requests page first last r ∧
      (Http.Secure first.url ↔ parts.scheme = "https".toList) ∧
      (∀ rule ∈ catalog, rule.id ∈ transportRules →
        ((verdictOn checks (page.subject clean) rule).passed = true ↔ Http.Secure first.url) ∧
        ((verdictOn checks (page.subject clean) rule).details = "Site uses HTTPS encryption." ↔
          Http.Secure first.url) ∧
        (rule ∈ select token catalog →
          ((∃ v ∈ a.violations, v.id = rule.id) ↔ ¬Http.Secure first.url))) ∧
      (Http.Secure first.url →
        (Http.Secure last.url ↔
          ¬Fetch.LeadsAway auditor.transport clean w.requests.length)) := by
  obtain ⟨-, -, parts, onWeb⟩ := siteAccepted.mp accepted
  obtain ⟨requests, sent, course⟩ := Fetch.fetchCourse auditor.transport s clean w
  rw [fetched] at course
  obtain ⟨a, first, last, r, addressed, absolute, named, supplied, ended⟩ := course.supplied
  have secure : Http.Secure first.url ↔ parts.scheme = "https".toList := by
    rw [named, Http.readSecure addressed absolute, siteScheme accepted onWeb addressed absolute]
  refine ⟨parts, auditor.judged clean token page, requests, first, last, r, onWeb,
    analyzeFetched accepted read fetched token, ?_, supplied, secure, ?_, ended⟩
  · rw [analyzeRequests accepted read, sent]
  · intro rule _ member
    obtain ⟨passes, tells⟩ := Check.httpsVerdict (s := page.subject clean) onWeb.read member
    refine ⟨passes.trans secure.symm, tells.trans secure.symm, fun selected => ?_⟩
    rw [transportTold onWeb auditor token page selected member, secure]

theorem movedPageSecure :
    let moved : Transport := .ofReplies ⟨1, .response ⟨301, .ofList [("Location", "//c.d/")], []⟩⟩
      [⟨1, .response ⟨200, .empty, []⟩⟩]
    let auditor : Auditor := ⟨moved, .ok .brief, "now"⟩
    ∃ a first last, (auditor.analyze (some "https://a.b/") (some "security") .start).1 = .ok a ∧
      (auditor.analyze (some "https://a.b/") (some "security") .start).2.requests = [first, last] ∧
      first.url = "https://a.b/" ∧ last.url = "https://c.d/" ∧
      (∀ rule ∈ select (some "security") catalog, rule.id ∈ transportRules →
        ¬∃ v ∈ a.violations, v.id = rule.id) ∧
      ¬Fetch.LeadsAway moved "https://a.b/" 0 := by
  intro moved auditor
  have fetched : (fetch auditor.transport .brief "https://a.b/" .start).1 =
      .ok ⟨[], .empty, "https://c.d/", 200⟩ := by
    decide +kernel
  have urls : (auditor.analyze (some "https://a.b/") (some "security") .start).2.requests.map
      Request.url = ["https://a.b/", "https://c.d/"] := by
    rw [analyzeRequests paragraphAccepted rfl]
    decide +kernel
  obtain ⟨-, a, requests, _, _, _, -, result, sent, supplied, -, judged, ended⟩ :=
    transportJudgedOnSite paragraphAccepted rfl fetched (some "security")
  have sent : (auditor.analyze (some "https://a.b/") (some "security") .start).2.requests =
      requests := sent
  rw [sent] at urls
  obtain ⟨first, more, rfl, start, rest⟩ := List.map_eq_cons_iff.mp urls
  obtain ⟨last, none, rfl, final, nothing⟩ := List.map_eq_cons_iff.mp rest
  obtain rfl := List.map_eq_nil_iff.mp nothing
  obtain rfl := Option.some.inj supplied.head
  obtain rfl := Option.some.inj supplied.latest
  have secure : Http.Secure first.url := by
    rw [start]
    decide
  refine ⟨a, first, last, result, sent, start, final, fun rule selected member told => ?_, ?_⟩
  · have known := (selectSublist (some "security") catalog).subset selected
    exact ((judged rule known member).2.2 selected).mp told secure
  · refine (ended secure).mp ?_
    change Http.Secure last.url
    rw [final]
    decide

/- A secure site is judged secure though its page comes from an address that is not. -/
theorem insecurePagePasses :
    let away : Transport := .ofReplies
      ⟨0, .response ⟨302, .ofList [("Location", "http://a.b/")], []⟩⟩
      [⟨0, .response ⟨200, .empty, []⟩⟩]
    let auditor : Auditor := ⟨away, .ok .unset, "now"⟩
    let ended := auditor.analyze (some "https://a.b/") (some "all") .start
    (fetch away .unset "https://a.b/" .start).1 =
      .ok ⟨[], .empty, "http://a.b/", 200⟩ ∧
    ended.2.requests.map Request.url = ["https://a.b/", "http://a.b/"] ∧
    ¬Http.Secure "http://a.b/" ∧
    transportRules ⊆ (select (some "all") catalog).map Rule.id ∧
    ∃ a, ended.1 = .ok a ∧ ∀ rule ∈ select (some "all") catalog, rule.id ∈ transportRules →
      ¬∃ v ∈ a.violations, v.id = rule.id := by
  intro away auditor ended
  have named : ended = auditor.analyze (some "https://a.b/") (some "all") .start := rfl
  rw [named]
  have fetched : (fetch away .unset "https://a.b/" .start).1 =
      .ok ⟨[], .empty, "http://a.b/", 200⟩ := by
    rw [Fetch.fetchSendable Settings.unsetSendable]
    decide +kernel
  have urls : (auditor.analyze (some "https://a.b/") (some "all") .start).2.requests.map
      Request.url = ["https://a.b/", "http://a.b/"] := by
    rw [analyzeRequests paragraphAccepted rfl, Fetch.fetchSendable Settings.unsetSendable]
    decide +kernel
  obtain ⟨-, -, parts, onWeb⟩ := siteAccepted.mp paragraphAccepted
  have scheme : parts.scheme = "https".toList := by
    have read : (Url.parts "https://a.b/").map Url.Parts.scheme = .ok "https".toList := by
      decide +kernel
    rw [onWeb.read] at read
    exact Except.ok.inj read
  refine ⟨fetched, urls, by decide +kernel, ?_, _,
    analyzeFetched paragraphAccepted rfl fetched (some "all"), fun rule selected member told => ?_⟩
  · rw [selectAll]
    decide +kernel
  · exact (transportTold onWeb auditor (some "all") _ selected member).mp told scheme

end Auditor

end PageAudit
