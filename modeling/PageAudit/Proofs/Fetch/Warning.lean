import PageAudit.Proofs.Fetch.Hops
/-!
What a fetch that fails warns of. Each failure is told once, where it happens and with its cause;
only a fetch that finds by its own clock that the time is over tells nothing.
-/
namespace PageAudit

def Event.isFetchWarning (e : Event) : Bool := e.teller == .fetcher && e.level == .warning

namespace Fetch

inductive Expires (t : Transport) (deadline clock : Number.Double) (sent : Nat) (url : String) :
    Prop
  | unsent (spent : (deadline - clock).atMost 0 = true)
  | late {address : Http.Address} {r : Response}
    (answered : Answered t deadline clock sent url address r)
    (absolute : address.isAbsolute = true)
    (pointed : Http.locationProblem? address r.status r.headers = none)
    (past : deadline.less (clock + (t sent).elapse) = true)

inductive Blames (t : Transport) (s : Settings) (deadline clock : Number.Double) (sent : Nat)
    (url : String) : Event → FetchError → Prop
  | unaddressed {e : Http.AddressError} (early : (deadline - clock).atMost 0 = false)
    (unread : Http.requestAddress url = .error e) :
    Blames t s deadline clock sent url (.connectionFailed url e.message) (.connection e.message)
  | waited {address : Http.Address} (early : (deadline - clock).atMost 0 = false)
    (addressed : Http.requestAddress url = .ok address)
    (silent : (t sent).answer = .timeout) :
    Blames t s deadline clock sent url (.timedOut url s.timeout) (.timeout s.timeout)
  | lost {address : Http.Address} {kind message : String}
    (early : (deadline - clock).atMost 0 = false)
    (addressed : Http.requestAddress url = .ok address)
    (failure : (t sent).answer = .failure kind message) :
    Blames t s deadline clock sent url (.connectionFailed url message)
      (.connection (if message.isEmpty then kind else message))
  | misled {address : Http.Address} {r : Response} {e : Http.LocationError}
    (answered : Answered t deadline clock sent url address r)
    (absolute : address.isAbsolute = true)
    (problem : Http.locationProblem? address r.status r.headers = some e)
    (resolved : ∀ cause, e ≠ .unresolved cause) :
    Blames t s deadline clock sent url (.connectionFailed url e.message) (.connection e.message)

inductive Account (t : Transport) (s : Settings) (deadline clock : Number.Double) (sent : Nat)
    (url : String) : List Event → Except FetchStop (String × Response) → Prop
  | broken {fault : Fault} : Account t s deadline clock sent url [] (.error (.broken fault))
  | expired (expires : Expires t deadline clock sent url) :
    Account t s deadline clock sent url [] (.error (.failed (.timeout s.timeout)))
  | blamed {event : Event} {e : FetchError} (blames : Blames t s deadline clock sent url event e) :
    Account t s deadline clock sent url [event] (.error (.failed e))
  | received {address : Http.Address} {r : Response}
    (received : Received t deadline clock sent url address r) :
    Account t s deadline clock sent url [] (.ok (address.write, r))

inductive Overruns (t : Transport) (s : Settings) (url : String) (clock : Number.Double)
    (sent : Nat) : Prop
  | first (expires : Expires t (clock + s.timeout) clock sent url)
  | second {address : Http.Address} {r : Response} {location target : String}
    (received : Received t (clock + s.timeout) clock sent url address r)
    (points : Points r location) (resolved : Url.resolve url location = .ok target)
    (expires : Expires t (clock + s.timeout) (clock + (t sent).elapse) (sent + 1) target)

inductive Reports (t : Transport) (s : Settings) (url : String) (clock : Number.Double)
    (sent : Nat) : Event → FetchError → Prop
  | first {event : Event} {e : FetchError}
    (blames : Blames t s (clock + s.timeout) clock sent url event e) :
    Reports t s url clock sent event e
  | second {address : Http.Address} {r : Response} {location target : String} {event : Event}
    {e : FetchError} (received : Received t (clock + s.timeout) clock sent url address r)
    (points : Points r location) (resolved : Url.resolve url location = .ok target)
    (blames : Blames t s (clock + s.timeout) (clock + (t sent).elapse) (sent + 1) target event e) :
    Reports t s url clock sent event e
  | status {address : Http.Address} {r : Response}
    (received : Received t (clock + s.timeout) clock sent url address r)
    (nowhere : ∀ location, ¬Points r location) (unsuccessful : ¬Success r.status) :
    Reports t s url clock sent (.statusRefused url r.status)
      (.status r.status (Http.reason r.status))
  | unresolved {address : Http.Address} {r : Response} {location : String} {e : Url.UrlError}
    (received : Received t (clock + s.timeout) clock sent url address r)
    (points : Points r location) (unresolved : Url.resolve url location = .error e) :
    Reports t s url clock sent (.redirectRefused url location e.message)
      (.connection s!"Invalid redirect location {Text.quoted location}: {e.message}")

inductive Warned (t : Transport) (s : Settings) (url : String) (clock : Number.Double)
    (sent : Nat) : List Event → FetchError → Prop
  | silent (overruns : Overruns t s url clock sent) :
    Warned t s url clock sent [] (.timeout s.timeout)
  | once {event : Event} {e : FetchError} (inTime : ¬Overruns t s url clock sent)
    (reports : Reports t s url clock sent event e) : Warned t s url clock sent [event] e

section
variable {t : Transport} {s : Settings} {deadline clock : Number.Double} {sent : Nat}
  {url : String} {w : World} {address : Http.Address} {r : Response}

theorem Tried.account {outcome : Except FetchStop (String × Response)} {u : World}
    (tried : Tried t s deadline url w outcome u) :
    ∃ new, u.events = w.events ++ new ∧
      Account t s deadline w.clock w.requests.length url new outcome := by
  have same : w.events = w.events ++ [] := (List.append_nil _).symm
  cases tried with
  | spent expired => exact ⟨[], same, .expired (.unsent expired)⟩
  | unaddressed early unread => exact ⟨_, rfl, .blamed (.unaddressed early unread)⟩
  | waited early addressed silent => exact ⟨_, rfl, .blamed (.waited early addressed silent)⟩
  | lost early addressed failure => exact ⟨_, rfl, .blamed (.lost early addressed failure)⟩
  | thrown | relative | unresolved => exact ⟨[], same, .broken⟩
  | misled answered absolute problem resolved =>
    exact ⟨_, rfl, .blamed (.misled answered absolute problem resolved)⟩
  | late answered absolute pointed past =>
    exact ⟨[], same, .expired (.late answered absolute pointed past)⟩
  | received received => exact ⟨[], same, .received received⟩

theorem Received.unexpired (received : Received t deadline clock sent url address r) :
    ¬Expires t deadline clock sent url := by
  rintro (spent | ⟨_, _, _, past⟩)
  · cases received.early.symm.trans spent
  · cases received.inTime.symm.trans past

section
variable {event : Event} {e : FetchError}

theorem Blames.filtered (blames : Blames t s deadline clock sent url event e) :
    [event].filter Event.isFetchWarning = [event] := by
  cases blames <;> rfl

theorem Blames.early (blames : Blames t s deadline clock sent url event e) :
    (deadline - clock).atMost 0 = false := by
  cases blames with
  | unaddressed early | waited early | lost early => exact early
  | misled answered => exact answered.early

theorem Blames.astray (blames : Blames t s deadline clock sent url event e)
    (answered : Answered t deadline clock sent url address r) :
    Http.locationProblem? address r.status r.headers ≠ none := by
  cases blames with
  | unaddressed early unread => cases unread.symm.trans answered.addressed
  | waited early addressed silent => cases silent.symm.trans answered.response
  | lost early addressed failure => cases failure.symm.trans answered.response
  | misled again absolute problem =>
    obtain ⟨rfl, rfl⟩ := answeredOnce again answered
    rw [problem]
    exact Option.some_ne_none _

theorem Blames.unexpired (blames : Blames t s deadline clock sent url event e) :
    ¬Expires t deadline clock sent url := by
  rintro (spent | ⟨answered, _, pointed, _⟩)
  · cases blames.early.symm.trans spent
  · exact blames.astray answered pointed

theorem Blames.inTime (blames : Blames t s (clock + s.timeout) clock sent url event e) :
    ¬Overruns t s url clock sent := by
  rintro (expires | ⟨received, _, _, _⟩)
  · exact blames.unexpired expires
  · exact blames.astray received.toAnswered received.pointed

end

theorem Received.overruns (received : Received t (clock + s.timeout) clock sent url address r) :
    Overruns t s url clock sent ↔
      ∃ location target, Points r location ∧ Url.resolve url location = .ok target ∧
        Expires t (clock + s.timeout) (clock + (t sent).elapse) (sent + 1) target := by
  constructor
  · rintro (expires | ⟨again, points, resolved, expires⟩)
    · exact absurd expires received.unexpired
    · obtain ⟨-, rfl⟩ := answeredOnce received.toAnswered again.toAnswered
      exact ⟨_, _, points, resolved, expires⟩
  · rintro ⟨location, target, points, resolved, expires⟩
    exact .second received points resolved expires

theorem pointsOnce {location other : String} (one : Points r location) (two : Points r other) :
    location = other :=
  Option.some.inj (one.field.symm.trans two.field)

theorem Received.followedInTime {location target : String} {event : Event} {e : FetchError}
    (received : Received t (clock + s.timeout) clock sent url address r)
    (points : Points r location) (resolved : Url.resolve url location = .ok target)
    (blames : Blames t s (clock + s.timeout) (clock + (t sent).elapse) (sent + 1) target event e) :
    ¬Overruns t s url clock sent := by
  rw [received.overruns]
  rintro ⟨other, elsewhere, again, too, expires⟩
  obtain rfl := pointsOnce points again
  obtain rfl := Except.ok.inj (too.symm.trans resolved)
  exact blames.unexpired expires

theorem Tried.warned {location target : String} {u v : World} {e : FetchError}
    (received : Received t (w.clock + s.timeout) w.clock w.requests.length url address r)
    (points : Points r location) (resolved : Url.resolve url location = .ok target)
    (clock : u.clock = w.clock + (t w.requests.length).elapse)
    (sent : u.requests.length = w.requests.length + 1)
    (two : Tried t s (w.clock + s.timeout) target u (.error (.failed e)) v) :
    ∃ new, v.events = u.events ++ new ∧
      Warned t s url w.clock w.requests.length (new.filter Event.isFetchWarning) e := by
  obtain ⟨new, events, account⟩ := two.account
  rw [clock, sent] at account
  refine ⟨new, events, ?_⟩
  cases account with
  | expired expires => exact .silent (.second received points resolved expires)
  | blamed blames =>
    rw [blames.filtered]
    exact .once (received.followedInTime points resolved blames)
      (.second received points resolved blames)

theorem Settled.warned {u v : World} {e : FetchError}
    (received : Received t (w.clock + s.timeout) w.clock w.requests.length url address r)
    (clock : u.clock = w.clock + (t w.requests.length).elapse)
    (sent : u.requests.length = w.requests.length + 1)
    (settled : Settled t s (w.clock + s.timeout) url address.write r u (.error (.failed e)) v) :
    ∃ new, v.events = u.events ++ new ∧
      Warned t s url w.clock w.requests.length (new.filter Event.isFetchWarning) e := by
  cases settled with
  | refused unpointed failure =>
    have nowhere := pointsNowhere.mp unpointed
    have inTime : ¬Overruns t s url w.clock w.requests.length := by
      rw [received.overruns]
      rintro ⟨location, target, points, -⟩
      exact nowhere location points
    have unsuccessful : ¬Success r.status := by
      rw [← successful, failure]
      exact Bool.false_ne_true
    exact ⟨_, rfl, .once inTime (.status received nowhere unsuccessful)⟩
  | @unresolved location cause pointed unresolved =>
    have points := pointsTo.mp pointed
    have inTime : ¬Overruns t s url w.clock w.requests.length := by
      rw [received.overruns]
      rintro ⟨other, target, again, too, -⟩
      obtain rfl := pointsOnce points again
      cases too.symm.trans unresolved
    exact ⟨_, rfl, .once inTime (.unresolved received points unresolved)⟩
  | @astray location target _ _ pointed resolved two =>
    obtain ⟨new, events, warned⟩ :=
      Tried.warned (u := u.tell _) received (pointsTo.mp pointed) resolved clock sent two
    refine ⟨.redirected url target r.status :: new, ?_, warned⟩
    simpa [World.tell] using events

theorem fetchWarned {e : FetchError} (failed : (fetch t s url w).1 = .error (.failed e)) :
    ∃ new, (fetch t s url w).2.events = w.events ++ new ∧
      Warned t s url w.clock w.requests.length (new.filter Event.isFetchWarning) e := by
  obtain ⟨v, fetched⟩ := fetchEnds.mp failed
  rw [fetched.reached]
  cases fetched with
  | stopped header one =>
    obtain ⟨new, events, account⟩ := one.account
    refine ⟨.fetchStarted url s.timeout :: new, by simpa [World.tell] using events, ?_⟩
    rw [List.filter_cons_of_neg Bool.false_ne_true]
    cases account with
    | expired expires => exact .silent (.first expires)
    | blamed blames =>
      rw [blames.filtered]
      exact .once blames.inTime (.first blames)
  | settled header one rest =>
    cases one with
    | received received =>
      obtain ⟨new, more, warned⟩ := rest.warned (w := w) received
        (askedClock (w := w.tell _)) (askedNumber (w := w.tell _))
      refine ⟨.fetchStarted url s.timeout :: new, ?_, warned⟩
      simpa [World.tell] using more

end

end Fetch

end PageAudit
