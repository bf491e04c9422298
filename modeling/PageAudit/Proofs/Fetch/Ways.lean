import PageAudit.Fetch.Basic
/-!
The ways in which a request ends, and a fetch. Each is listed once, with the world that it leaves
behind, and what is said of requests and fetches elsewhere is read off these two lists.
-/
namespace PageAudit.Fetch

structure Answered (t : Transport) (deadline clock : Number.Double) (sent : Nat) (url : String)
    (address : Http.Address) (r : Response) : Prop where
  early : (deadline - clock).atMost 0 = false
  addressed : Http.requestAddress url = .ok address
  response : (t sent).answer = .response r

structure Received (t : Transport) (deadline clock : Number.Double) (sent : Nat) (url : String)
    (address : Http.Address) (r : Response) : Prop extends
    Answered t deadline clock sent url address r where
  absolute : address.isAbsolute = true
  pointed : Http.locationProblem? address r.status r.headers = none
  inTime : deadline.less (clock + (t sent).elapse) = false

def requestTo (s : Settings) (deadline : Number.Double) (address : Http.Address) (w : World) :
    Request :=
  ⟨address.write, s.userAgent, s.accept, deadline - w.clock⟩

def asked (t : Transport) (s : Settings) (deadline : Number.Double) (address : Http.Address)
    (w : World) : World :=
  (w.send t (requestTo s deadline address w)).2

inductive Tried (t : Transport) (s : Settings) (deadline : Number.Double) (url : String)
    (w : World) : Except FetchStop (String × Response) → World → Prop
  | spent (expired : (deadline - w.clock).atMost 0 = true) :
    Tried t s deadline url w (.error (.failed (.timeout s.timeout))) w
  | unaddressed {e : Http.AddressError} (early : (deadline - w.clock).atMost 0 = false)
    (unread : Http.requestAddress url = .error e) :
    Tried t s deadline url w (.error (.failed (.connection e.message)))
      (w.tell (.connectionFailed url e.message))
  | waited {address : Http.Address} (early : (deadline - w.clock).atMost 0 = false)
    (addressed : Http.requestAddress url = .ok address)
    (silent : (t w.requests.length).answer = .timeout) :
    Tried t s deadline url w (.error (.failed (.timeout s.timeout)))
      ((asked t s deadline address w).tell (.timedOut url s.timeout))
  | lost {address : Http.Address} {kind message : String}
    (early : (deadline - w.clock).atMost 0 = false)
    (addressed : Http.requestAddress url = .ok address)
    (failure : (t w.requests.length).answer = .failure kind message) :
    Tried t s deadline url w
      (.error (.failed (.connection (if message.isEmpty then kind else message))))
      ((asked t s deadline address w).tell (.connectionFailed url message))
  | thrown {address : Http.Address} {fault : Fault}
    (early : (deadline - w.clock).atMost 0 = false)
    (addressed : Http.requestAddress url = .ok address)
    (broken : (t w.requests.length).answer = .broken fault) :
    Tried t s deadline url w (.error (.broken fault)) (asked t s deadline address w)
  | relative {address : Http.Address} {r : Response}
    (answered : Answered t deadline w.clock w.requests.length url address r)
    (relative : address.isAbsolute = false) :
    Tried t s deadline url w
      (.error (.broken ⟨"ValueError", s!"unknown url type: {Text.quoted address.write}"⟩))
      (asked t s deadline address w)
  | unresolved {address : Http.Address} {r : Response} {e : Url.UrlError}
    (answered : Answered t deadline w.clock w.requests.length url address r)
    (absolute : address.isAbsolute = true)
    (problem : Http.locationProblem? address r.status r.headers = some (.unresolved e)) :
    Tried t s deadline url w (.error (.broken ⟨"ValueError", e.message⟩))
      (asked t s deadline address w)
  | misled {address : Http.Address} {r : Response} {e : Http.LocationError}
    (answered : Answered t deadline w.clock w.requests.length url address r)
    (absolute : address.isAbsolute = true)
    (problem : Http.locationProblem? address r.status r.headers = some e)
    (resolved : ∀ cause, e ≠ .unresolved cause) :
    Tried t s deadline url w (.error (.failed (.connection e.message)))
      ((asked t s deadline address w).tell (.connectionFailed url e.message))
  | late {address : Http.Address} {r : Response}
    (answered : Answered t deadline w.clock w.requests.length url address r)
    (absolute : address.isAbsolute = true)
    (pointed : Http.locationProblem? address r.status r.headers = none)
    (past : deadline.less (w.clock + (t w.requests.length).elapse) = true) :
    Tried t s deadline url w (.error (.failed (.timeout s.timeout))) (asked t s deadline address w)
  | received {address : Http.Address} {r : Response}
    (received : Received t deadline w.clock w.requests.length url address r) :
    Tried t s deadline url w (.ok (address.write, r)) (asked t s deadline address w)

inductive Settled (t : Transport) (s : Settings) (deadline : Number.Double) (url : String)
    (address : String) (r : Response) (u : World) : Except FetchStop Page → World → Prop
  | page (nowhere : location? r = none) (success : Http.isSuccess r.status = true) :
    Settled t s deadline url address r u (.ok (.ofResponse t address r)) u
  | refused (nowhere : location? r = none) (failure : Http.isSuccess r.status = false) :
    Settled t s deadline url address r u
      (.error (.failed (.status r.status (Http.reason r.status))))
      (u.tell (.statusRefused url r.status))
  | unresolved {location : String} {e : Url.UrlError} (pointed : location? r = some location)
    (unresolved : Url.resolve url location = .error e) :
    Settled t s deadline url address r u
      (.error (.failed (.connection
        s!"Invalid redirect location {Text.quoted location}: {e.message}")))
      (u.tell (.redirectRefused url location e.message))
  | astray {location target : String} {stop : FetchStop} {v : World}
    (pointed : location? r = some location) (resolved : Url.resolve url location = .ok target)
    (two : Tried t s deadline target (u.tell (.redirected url target r.status)) (.error stop) v) :
    Settled t s deadline url address r u (.error stop) v
  | followed {location target last : String} {q : Response} {v : World}
    (pointed : location? r = some location) (resolved : Url.resolve url location = .ok target)
    (two : Tried t s deadline target (u.tell (.redirected url target r.status)) (.ok (last, q)) v) :
    Settled t s deadline url address r u (.ok (.ofResponse t last q)) v

inductive Fetched (t : Transport) (s : Settings) (url : String) (w : World) :
    Except FetchStop Page → World → Prop
  | unsendable {fault : Fault}
    (header : [s.userAgent, s.accept].findSome? headerFault? = some fault) :
    Fetched t s url w (.error (.broken fault)) w
  | stopped {stop : FetchStop} {u : World}
    (header : [s.userAgent, s.accept].findSome? headerFault? = none)
    (one : Tried t s (w.clock + s.timeout) url (w.tell (.fetchStarted url s.timeout))
      (.error stop) u) :
    Fetched t s url w (.error stop) u
  | settled {address : String} {r : Response} {outcome : Except FetchStop Page} {u v : World}
    (header : [s.userAgent, s.accept].findSome? headerFault? = none)
    (one : Tried t s (w.clock + s.timeout) url (w.tell (.fetchStarted url s.timeout))
      (.ok (address, r)) u)
    (rest : Settled t s (w.clock + s.timeout) url address r u outcome v) :
    Fetched t s url w outcome v

section
variable {t : Transport} {s : Settings} {deadline : Number.Double} {url : String} {w u : World}
  {address : Http.Address} {r : Response} {outcome : Except FetchStop (String × Response)}

@[simp] theorem askedClock :
    (asked t s deadline address w).clock = w.clock + (t w.requests.length).elapse := rfl

@[simp] theorem askedRequests : (asked t s deadline address w).requests =
    w.requests ++ [requestTo s deadline address w] := rfl

@[simp] theorem askedNumber :
    (asked t s deadline address w).requests.length = w.requests.length + 1 := by
  rw [askedRequests, List.length_append, List.length_singleton]

@[simp] theorem askedEvents : (asked t s deadline address w).events = w.events := rfl

theorem answeredOnce {clock : Number.Double} {sent : Nat} {other : Http.Address} {q : Response}
    (one : Answered t deadline clock sent url address r)
    (two : Answered t deadline clock sent url other q) : address = other ∧ r = q := by
  have sameAddress := one.addressed.symm.trans two.addressed
  have sameResponse := one.response.symm.trans two.response
  exact ⟨Except.ok.inj sameAddress, Answer.response.inj sameResponse⟩

theorem sentAnswer {answer : Answer} (given : (t w.requests.length).answer = answer) :
    w.send t ⟨address.write, s.userAgent, s.accept, deadline - w.clock⟩ =
      (answer, asked t s deadline address w) := by
  rw [← given]
  rfl

theorem getRefused (answered : Answered t deadline w.clock w.requests.length url address r)
    {stop : FetchStop} {v : World}
    (refused : receive url address r (asked t s deadline address w) = (.error stop, v)) :
    get t s deadline url w = (.error stop, v) := by
  simp only [get, answered.early, Bool.false_eq_true, if_false, answered.addressed,
    sentAnswer answered.response, refused]

theorem getRead (answered : Answered t deadline w.clock w.requests.length url address r)
    {got : String × Response} {v : World}
    (read : receive url address r (asked t s deadline address w) = (.ok got, v)) :
    get t s deadline url w =
      if deadline.less v.clock then (.error (.failed (.timeout s.timeout)), v)
      else (.ok got, v) := by
  simp only [get, answered.early, Bool.false_eq_true, if_false, answered.addressed,
    sentAnswer answered.response, read]

theorem receivePointed (absolute : address.isAbsolute = true)
    (pointed : Http.locationProblem? address r.status r.headers = none) :
    receive url address r w = (.ok (address.write, r), w) := by
  simp only [receive, absolute, Bool.not_true, Bool.false_eq_true, if_false, pointed]

theorem Tried.reached (tried : Tried t s deadline url w outcome u) :
    get t s deadline url w = (outcome, u) := by
  cases tried with
  | spent expired => simp only [get, expired, if_true]
  | unaddressed early unread =>
    simp only [get, early, Bool.false_eq_true, if_false, unread, refuse]
  | waited early addressed silent =>
    simp only [get, early, Bool.false_eq_true, if_false, addressed, sentAnswer silent]
  | lost early addressed failure =>
    simp only [get, early, Bool.false_eq_true, if_false, addressed, sentAnswer failure]
  | thrown early addressed broken =>
    simp only [get, early, Bool.false_eq_true, if_false, addressed, sentAnswer broken]
  | relative answered relative =>
    refine getRefused answered ?_
    simp only [receive, relative, Bool.not_false, if_true]
  | unresolved answered absolute problem =>
    refine getRefused answered ?_
    simp only [receive, absolute, Bool.not_true, Bool.false_eq_true, if_false, problem]
  | @misled _ _ e answered absolute problem resolved =>
    refine getRefused answered ?_
    simp only [receive, absolute, Bool.not_true, Bool.false_eq_true, if_false, problem]
    cases e with
    | unresolved cause => exact absurd rfl (resolved cause)
    | location | address => rfl
  | late answered absolute pointed past =>
    rw [getRead answered (receivePointed absolute pointed), askedClock, past, if_pos rfl]
  | received received =>
    rw [getRead received.toAnswered (receivePointed received.absolute received.pointed),
      askedClock, received.inTime, if_neg Bool.false_ne_true]

theorem answeredTried (answered : Answered t deadline w.clock w.requests.length url address r) :
    ∃ outcome u, Tried t s deadline url w outcome u := by
  cases absolute : address.isAbsolute with
  | false => exact ⟨_, _, .relative answered absolute⟩
  | true =>
    cases pointed : Http.locationProblem? address r.status r.headers with
    | none =>
      cases past : deadline.less (w.clock + (t w.requests.length).elapse) with
      | true => exact ⟨_, _, .late answered absolute pointed past⟩
      | false => exact ⟨_, _, .received ⟨answered, absolute, pointed, past⟩⟩
    | some e =>
      cases e with
      | unresolved cause => exact ⟨_, _, .unresolved answered absolute pointed⟩
      | location | address => exact ⟨_, _, .misled answered absolute pointed nofun⟩

theorem someTried (t : Transport) (s : Settings) (deadline : Number.Double) (url : String)
    (w : World) : ∃ outcome u, Tried t s deadline url w outcome u := by
  cases early : (deadline - w.clock).atMost 0 with
  | true => exact ⟨_, _, .spent early⟩
  | false =>
    cases addressed : Http.requestAddress url with
    | error e => exact ⟨_, _, .unaddressed early addressed⟩
    | ok address =>
      cases answer : (t w.requests.length).answer with
      | timeout => exact ⟨_, _, .waited early addressed answer⟩
      | failure kind message => exact ⟨_, _, .lost early addressed answer⟩
      | broken fault => exact ⟨_, _, .thrown early addressed answer⟩
      | response r => exact answeredTried ⟨early, addressed, answer⟩

section
variable {page : Except FetchStop Page}

theorem Settled.reached {first : String}
    (settled : Settled t s deadline url first r w page u) :
    settle t s deadline url first r w = (page, u) := by
  cases settled with
  | page nowhere success => simp only [settle, nowhere, success, if_true]
  | refused nowhere failure => simp only [settle, nowhere, failure, Bool.false_eq_true, if_false]
  | unresolved pointed unresolved => simp only [settle, pointed, follow, unresolved]
  | astray pointed resolved two => simp only [settle, pointed, follow, resolved, two.reached]
  | followed pointed resolved two => simp only [settle, pointed, follow, resolved, two.reached]

theorem someSettled (t : Transport) (s : Settings) (deadline : Number.Double)
    (url first : String) (r : Response) (w : World) :
    ∃ page u, Settled t s deadline url first r w page u := by
  cases pointed : location? r with
  | none =>
    cases success : Http.isSuccess r.status with
    | true => exact ⟨_, _, .page pointed success⟩
    | false => exact ⟨_, _, .refused pointed success⟩
  | some location =>
    cases resolved : Url.resolve url location with
    | error e => exact ⟨_, _, .unresolved pointed resolved⟩
    | ok target =>
      obtain ⟨outcome, u, two⟩ := someTried t s deadline target
        (w.tell (.redirected url target r.status))
      cases outcome with
      | error stop => exact ⟨_, _, .astray pointed resolved two⟩
      | ok got => exact ⟨_, _, .followed pointed resolved two⟩

theorem Fetched.reached (fetched : Fetched t s url w page u) : fetch t s url w = (page, u) := by
  cases fetched with
  | unsendable header => simp only [fetch, header]
  | stopped header one => simp only [fetch, header, one.reached]
  | settled header one rest => simp only [fetch, header, one.reached, rest.reached]

theorem someFetched (t : Transport) (s : Settings) (url : String) (w : World) :
    ∃ page u, Fetched t s url w page u := by
  cases header : [s.userAgent, s.accept].findSome? headerFault? with
  | some fault => exact ⟨_, _, .unsendable header⟩
  | none =>
    obtain ⟨outcome, u, one⟩ := someTried t s (w.clock + s.timeout) url
      (w.tell (.fetchStarted url s.timeout))
    cases outcome with
    | error stop => exact ⟨_, _, .stopped header one⟩
    | ok got =>
      obtain ⟨page, v, rest⟩ := someSettled t s (w.clock + s.timeout) url got.1 got.2 u
      exact ⟨_, _, .settled header one rest⟩

theorem fetchFetched : fetch t s url w = (page, u) ↔ Fetched t s url w page u := by
  refine ⟨fun reached => ?_, Fetched.reached⟩
  obtain ⟨other, v, fetched⟩ := someFetched t s url w
  cases reached.symm.trans fetched.reached
  exact fetched

theorem fetchEnds : (fetch t s url w).1 = page ↔ ∃ u, Fetched t s url w page u := by
  constructor
  · intro ended
    exact ⟨_, fetchFetched.mp (Prod.ext ended rfl)⟩
  · rintro ⟨u, fetched⟩
    rw [fetched.reached]

end

end

end PageAudit.Fetch
