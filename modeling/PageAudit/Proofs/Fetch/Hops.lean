import PageAudit.Proofs.Audit.Basic
import PageAudit.Proofs.Fetch.Course
/-!
The requests of a fetch and the response that its page is made of. Only a response that points
somewhere leads to a second request; a status is refused on the first response alone.
-/
namespace PageAudit

namespace Fetch

structure Points (r : Response) (location : String) : Prop where
  status : 300 ≤ r.status ∧ r.status < 400
  field : r.headers.get? "location" = some location
  filled : location ≠ ""

def Success (status : Nat) : Prop := 200 ≤ status ∧ status < 300

instance (status : Nat) : Decidable (Success status) := inferInstanceAs (Decidable (_ ∧ _))

structure Requested (t : Transport) (url : String) (sent : Nat) (requests : List Request) :
    Prop where
  few : requests.length ≤ 2
  first : ∀ q, requests[0]? = some q →
    ∃ address, Http.requestAddress url = .ok address ∧ q.url = address.write
  second : ∀ q, requests[1]? = some q →
    ∃ r location target address, (t sent).answer = .response r ∧ Points r location ∧
      Url.resolve url location = .ok target ∧ Http.requestAddress target = .ok address ∧
      q.url = address.write

structure MadeOf (t : Transport) (q : Request) (r : Response) (page : Page) : Prop where
  url : page.url = q.url
  markup : page.markup = t.text r.headers r.body
  headers : page.headers = r.headers
  status : page.status = r.status

structure Hops (t : Transport) (url : String) (sent : Nat) (requests : List Request)
    (outcome : Except FetchStop Page) : Prop extends Requested t url sent requests where
  page : ∀ page, outcome = .ok page →
    ∃ last q r, requests.length = last + 1 ∧ requests[last]? = some q ∧
      (t (sent + last)).answer = .response r ∧ MadeOf t q r page
  unsuccessful : ∀ page, outcome = .ok page → ¬Success page.status → requests.length = 2
  refused : ∀ code reason, outcome = .error (.failed (.status code reason)) →
    requests.length = 1 ∧ ∃ r, (t sent).answer = .response r ∧ (∀ location, ¬Points r location) ∧
      ¬Success r.status ∧ code = r.status ∧ reason = Http.reason r.status

section
variable {t : Transport} {s : Settings} {deadline clock c d : Number.Double} {sent : Nat}
  {url target : String} {requests more : List Request} {address : String} {r : Response}

theorem madeOfResponse {q : Request} : MadeOf t q r (.ofResponse t q.url r) where
  url := rfl
  markup := rfl
  headers := rfl
  status := rfl

theorem pointsTo {location : String} : location? r = some location ↔ Points r location := by
  simp only [location?, Http.isRedirect, Http.Headers.filled?, Option.ite_none_right_eq_some,
    Bool.and_eq_true, decide_eq_true_eq, Option.filter_eq_some_iff, Bool.not_eq_true',
    String.isEmpty_eq_false_iff]
  exact ⟨fun ⟨status, field, filled⟩ => ⟨status, field, filled⟩,
    fun ⟨status, field, filled⟩ => ⟨status, field, filled⟩⟩

theorem pointsNowhere : location? r = none ↔ ∀ location, ¬Points r location := by
  simp only [← pointsTo, Option.eq_none_iff_forall_ne_some, ne_eq]

theorem successful {status : Nat} : Http.isSuccess status = true ↔ Success status := by
  simp only [Http.isSuccess, Bool.and_eq_true, decide_eq_true_eq, Success]

theorem Asked.addressed {q : Request} (asked : Asked s deadline clock url q) :
    ∃ address, Http.requestAddress url = .ok address ∧ q.url = address.write := by
  obtain ⟨address, addressed, rfl⟩ := asked.sent
  exact ⟨address, addressed, rfl⟩

theorem Attempt.requested {outcome : Except FetchStop (String × Response)}
    (attempt : Attempt t s deadline clock sent url requests c outcome) :
    requests = [] ∨ ∃ q, requests = [q] ∧ Asked s deadline clock url q := by
  cases attempt with
  | unsent unlike => exact .inl rfl
  | lost asked unlike => exact .inr ⟨_, rfl, asked⟩
  | received asked named received => exact .inr ⟨_, rfl, asked⟩

theorem requestedOnce {outcome : Except FetchStop (String × Response)}
    (one : Attempt t s deadline clock sent url requests c outcome) :
    Requested t url sent requests := by
  rcases one.requested with rfl | ⟨q, rfl, asked⟩
  · exact ⟨by simp, nofun, nofun⟩
  · refine ⟨by simp, ?_, nofun⟩
    rintro _ ⟨rfl⟩
    exact asked.addressed

theorem requestedTwice {location : String} {outcome : Except FetchStop (String × Response)}
    (one : Attempt t s deadline clock sent url requests c (.ok (address, r)))
    (pointed : location? r = some location) (resolved : Url.resolve url location = .ok target)
    (two : Attempt t s deadline c (sent + 1) target more d outcome) :
    Requested t url sent (requests ++ more) := by
  have once := requestedOnce one
  obtain ⟨q, a, rfl, -, -, -, -, received⟩ := one.source
  rcases two.requested with rfl | ⟨p, rfl, asked⟩
  · exact once
  · refine ⟨by simp, once.first, ?_⟩
    rintro _ ⟨rfl⟩
    obtain ⟨b, addressed, named⟩ := asked.addressed
    exact ⟨r, location, target, b, received.response, pointsTo.mp pointed, resolved, addressed,
      named⟩

theorem Hops.ofStop {stop : FetchStop} (requested : Requested t url sent requests)
    (unlike : stop.isStatus = false) : Hops t url sent requests (.error stop) where
  toRequested := requested
  page := nofun
  unsuccessful := nofun
  refused := by
    rintro code reason ⟨⟩
    cases unlike

theorem Attempt.unlike {stop : FetchStop}
    (attempt : Attempt t s deadline clock sent url requests c (.error stop)) :
    stop.isStatus = false := by
  cases attempt <;> assumption

theorem Course.hops {outcome : Except FetchStop Page}
    (course : Course t s url clock sent requests c outcome) :
    Hops t url sent requests outcome := by
  cases course with
  | unsendable => exact .ofStop ⟨by simp, nofun, nofun⟩ rfl
  | stopped one => exact .ofStop (requestedOnce one) one.unlike
  | unresolved one pointed => exact .ofStop (requestedOnce one) rfl
  | astray one pointed resolved two =>
    exact .ofStop (requestedTwice one pointed resolved two) two.unlike
  | page one settled success =>
    obtain ⟨q, a, rfl, -, -, rfl, -, received⟩ := one.source
    refine ⟨requestedOnce one, ?_, ?_, nofun⟩
    · rintro _ ⟨rfl⟩
      exact ⟨0, q, _, rfl, rfl, received.response, madeOfResponse⟩
    · rintro _ ⟨rfl⟩ failure
      exact absurd (successful.mp success) failure
  | @refused _ _ _ r one settled failure =>
    obtain ⟨q, a, rfl, -, -, rfl, -, received⟩ := one.source
    refine ⟨requestedOnce one, nofun, nofun, ?_⟩
    rintro _ _ ⟨rfl, rfl⟩
    have unsuccessful : ¬Success r.status := by
      rw [← successful, failure]
      exact Bool.false_ne_true
    exact ⟨rfl, _, received.response, pointsNowhere.mp settled, unsuccessful, rfl, rfl⟩
  | followed one pointed resolved two =>
    have requested := requestedTwice one pointed resolved two
    obtain ⟨q, a, rfl, -⟩ := one.source
    obtain ⟨p, b, rfl, -, -, rfl, -, received⟩ := two.source
    refine ⟨requested, ?_, fun _ _ _ => rfl, nofun⟩
    rintro _ ⟨rfl⟩
    exact ⟨1, p, _, rfl, rfl, received.response, madeOfResponse⟩

theorem fetchReceived {w : World} (sendable : s.Sendable) {a : Http.Address}
    (received : Received t (w.clock + s.timeout) w.clock w.requests.length url a r) :
    ∃ u, u.clock = w.clock + (t w.requests.length).elapse ∧
      u.requests.length = w.requests.length + 1 ∧
      ∀ {page v}, Settled t s (w.clock + s.timeout) url a.write r u page v →
        fetch t s url w = (page, v) := by
  let u := asked t s (w.clock + s.timeout) a (w.tell (.fetchStarted url s.timeout))
  have one : Tried t s (w.clock + s.timeout) url (w.tell (.fetchStarted url s.timeout))
      (.ok (a.write, r)) u := .received received
  exact ⟨u, askedClock, askedNumber, fun rest =>
    (Fetched.settled (headersSendable.mpr sendable) one rest).reached⟩

end

end Fetch

theorem fetchHops (t : Transport) (s : Settings) (url : String) (w : World) :
    (∃ requests, (fetch t s url w).2.requests = w.requests ++ requests ∧
      Fetch.Hops t url w.requests.length requests (fetch t s url w).1) ∧
    (s.Sendable → ∀ address r,
      Fetch.Received t (w.clock + s.timeout) w.clock w.requests.length url address r →
      (∀ location, ¬Fetch.Points r location) →
      ((∃ code reason, (fetch t s url w).1 = .error (.failed (.status code reason))) ↔
        ¬Fetch.Success r.status) ∧
      ((∃ page, (fetch t s url w).1 = .ok page) ↔ Fetch.Success r.status)) := by
  constructor
  · obtain ⟨requests, sent, course⟩ := Fetch.fetchCourse t s url w
    exact ⟨requests, sent, course.hops⟩
  · intro sendable address r received nowhere
    obtain ⟨u, -, -, ends⟩ := Fetch.fetchReceived sendable received
    obtain ⟨page, v, rest⟩ :=
      Fetch.someSettled t s (w.clock + s.timeout) url address.write r u
    rw [ends rest, ← Fetch.successful]
    cases rest with
    | page unpointed success => simp [success]
    | refused unpointed failure => simp [failure]
    | unresolved pointed | astray pointed | followed pointed =>
      exact absurd (Fetch.pointsTo.mp pointed) (nowhere _)

theorem answeredPageCarried :
    let headers : Http.Headers := .ofList [("Content-Type", "text/html; charset=latin-1")]
    let answering (status : Nat) : Transport := .always ⟨status, headers, [0xE9]⟩
    Settings.unset.Sendable ∧ (∀ location, ¬Fetch.Points ⟨200, headers, [0xE9]⟩ location) ∧
    (∀ status ∈ [200, 404], ∃ address, Fetch.Received (answering status)
      (World.start.clock + Settings.unset.timeout) World.start.clock 0 "https://a.b/" address
      ⟨status, headers, [0xE9]⟩) ∧
    (∃ code reason, (fetch (answering 404) .unset "https://a.b/" .start).1 =
      .error (.failed (.status code reason))) ∧
    ∃ page, (fetch (answering 200) .unset "https://a.b/" .start).1 = .ok page ∧
      page.markup = ['é'] ∧ page.headers = headers ∧ page.status = 200 := by
  intro headers answering
  have nowhere : ∀ status ∈ [200, 404], ∀ location,
      ¬Fetch.Points ⟨status, headers, [0xE9]⟩ location := by
    intro status member location points
    cases (by decide +kernel : headers.get? "location" = none).symm.trans points.field
  have received : ∀ status ∈ [200, 404], ∃ address, Fetch.Received (answering status)
      (World.start.clock + Settings.unset.timeout) World.start.clock 0 "https://a.b/" address
      ⟨status, headers, [0xE9]⟩ := by
    intro status member
    have pointed : Http.locationProblem? ⟨"https".toList, [], "a.b".toList, none, ['/'], none, none⟩
        status headers = none := by
      revert status
      decide +kernel
    have inTime : (World.start.clock + Settings.unset.timeout).less (World.start.clock + 0) =
        false := by
      decide +kernel
    exact ⟨⟨"https".toList, [], "a.b".toList, none, ['/'], none, none⟩,
      ⟨by decide +kernel, by decide +kernel, rfl⟩, by decide +kernel, pointed, inTime⟩
  obtain ⟨_, missed⟩ := received 404 (by decide)
  obtain ⟨_, found⟩ := received 200 (by decide)
  obtain ⟨-, refuses⟩ := fetchHops (answering 404) .unset "https://a.b/" .start
  obtain ⟨⟨requests, -, hops⟩, hands⟩ := fetchHops (answering 200) .unset "https://a.b/" .start
  have kept := hands Settings.unsetSendable _ _ found (nowhere 200 (by decide))
  obtain ⟨page, handed⟩ := kept.2.mpr (by decide)
  obtain ⟨_, _, r, -, -, answer, made⟩ := hops.page page handed
  obtain rfl := Answer.response.inj answer
  have failed := refuses Settings.unsetSendable _ _ missed (nowhere 404 (by decide))
  refine ⟨Settings.unsetSendable, nowhere 200 (by decide), received, failed.1.mpr (by decide),
    page, handed, ?_, made.headers, made.status⟩
  rw [made.markup]
  decide +kernel

/- A response to a request without an absolute address is not handed over, nor is one whose empty
location leads back to an address that cannot be read again. -/
theorem missingPageUnrefused :
    let missing : Transport := .always ⟨404, .empty, []⟩
    let moved : Transport := .always ⟨301, .ofList [("Location", "")], []⟩
    (World.start.clock + Settings.unset.timeout).less (World.start.clock + (missing 0).elapse) =
      false ∧
    (fetch missing .unset "/x" .start).1 =
      .error (.broken ⟨"ValueError", "unknown url type: '/x'"⟩) ∧
    (fetch missing .unset "/x" .start).2.requests.map Request.url = ["/x"] ∧
    (fetch moved .unset "https://1.2 3/" .start).1 =
      .error (.failed (.connection "Invalid IPv4 address: '1.2%203'")) ∧
    (fetch moved .unset "https://1.2 3/" .start).2.requests.map Request.url =
      ["https://1.2%203/"] := by
  simp only [Fetch.fetchSendable Settings.unsetSendable]
  decide +kernel

end PageAudit
