import PageAudit.Proofs.Fetch.Hops
import PageAudit.Proofs.Number.Double
/-!
One time for both requests of a fetch. Each is sent before the deadline with what is left of it, the
second with no more than the first, and a response that comes after it makes no page.
-/
namespace PageAudit

open Number (Double)

def Transport.clockAfter (t : Transport) (clock : Double) (sent : Nat) : Nat → Double
  | 0 => clock
  | k + 1 => t.clockAfter clock sent k + (t (sent + k)).elapse

namespace Fetch

/-- Time only goes by, and the deadline and the first reply are not both an infinity away. -/
structure Paced (t : Transport) (s : Settings) (clock : Double) (sent : Nat) : Prop where
  positive : Double.less 0 s.timeout = true
  forward : ∀ n, Double.atMost 0 (t n).elapse = true
  started : clock.IsTime
  finite : (clock + s.timeout).value?.isSome ∨ (clock + (t sent).elapse).value?.isSome

structure Punctual (deadline clock : Double) (q : Request) : Prop where
  remaining : q.timeout = deadline - clock
  positive : Double.less 0 q.timeout = true
  before : clock.less deadline = true

structure InTime (t : Transport) (deadline clock : Double) (sent : Nat) (requests : List Request)
    (ended : Double) : Prop where
  elapsed : ended = t.clockAfter clock sent requests.length
  punctual : ∀ k q, requests[k]? = some q → Punctual deadline (t.clockAfter clock sent k) q
  shrinking : ∀ p q, requests[0]? = some p → requests[1]? = some q →
    q.timeout.atMost p.timeout = true

structure Reading (x : Double) : Prop where
  number : x ≠ .nan
  exact : x.Exact

section
variable {t : Transport} {s : Settings} {deadline clock c d : Double} {sent : Nat} {url : String}
  {requests : List Request}

theorem Paced.deadlineReading (paced : Paced t s clock sent) : Reading (clock + s.timeout) := by
  obtain ⟨v, value, -⟩ := paced.started.rounds
  exact ⟨Double.sumNotNan value (Double.lessAtMost paced.positive),
    Double.sumExact paced.started s.timeout⟩

theorem Paced.clockReading (paced : Paced t s clock sent) :
    Reading (clock + (t sent).elapse) := by
  obtain ⟨v, value, -⟩ := paced.started.rounds
  exact ⟨Double.sumNotNan value (paced.forward sent), Double.sumExact paced.started _⟩

/- A first reply that is not after the deadline came at a finite time. -/
theorem Paced.answered (paced : Paced t s clock sent)
    (inTime : (clock + s.timeout).less (clock + (t sent).elapse) = false) :
    ∃ b, (clock + (t sent).elapse).value? = some b := by
  rcases paced.finite with deadline | answered
  · obtain ⟨b, value⟩ := Option.isSome_iff_exists.mp deadline
    have later := Double.sumAfter paced.started (paced.forward sent)
    obtain ⟨v, start, -⟩ := paced.started.rounds
    have number := paced.clockReading.number
    rw [Double.atMostLess (Double.valueNotNan start) number] at later
    rcases Double.valueOrInfinite number with answered | ⟨negative, infinite⟩
    · exact answered
    · rw [infinite, (Double.lessInfinite value negative).1] at inTime
      rw [infinite, (Double.lessInfinite start negative).2] at later
      cases inTime.symm.trans later
  · exact Option.isSome_iff_exists.mp answered

theorem Asked.punctual {a : Rat} {q : Request} (reading : Reading deadline) (exact : clock.Exact)
    (value : clock.value? = some a) (asked : Asked s deadline clock url q) :
    Punctual deadline clock q := by
  obtain ⟨address, -, rfl⟩ := asked.sent
  obtain ⟨positive, before⟩ := Double.subPositive reading.number reading.exact exact value
    asked.early
  exact ⟨rfl, positive, before⟩

theorem Reading.atMost (deadlineReading : Reading deadline) (number : c ≠ .nan)
    (inTime : deadline.less c = false) : c.atMost deadline = true := by
  rw [Double.atMostLess number deadlineReading.number, inTime, Bool.not_false]

theorem Attempt.elapsed {outcome : Except FetchStop (String × Response)}
    (attempt : Attempt t s deadline clock sent url requests c outcome) :
    c = t.clockAfter clock sent requests.length := by
  cases attempt <;> rfl

theorem Paced.once (paced : Paced t s clock sent)
    {outcome : Except FetchStop (String × Response)}
    (one : Attempt t s (clock + s.timeout) clock sent url requests c outcome) :
    InTime t (clock + s.timeout) clock sent requests c := by
  have elapsed := one.elapsed
  obtain ⟨v, value, -⟩ := paced.started.rounds
  rcases one.requested with rfl | ⟨q, rfl, asked⟩
  · exact ⟨elapsed, nofun, nofun⟩
  · refine ⟨elapsed, ?_, nofun⟩
    rintro (_ | k) _ ⟨rfl⟩
    exact asked.punctual paced.deadlineReading paced.started.exact value

theorem Paced.twice (paced : Paced t s clock sent) {target address : String} {r : Response}
    {more : List Request} {outcome : Except FetchStop (String × Response)}
    (one : Attempt t s (clock + s.timeout) clock sent url requests c (.ok (address, r)))
    (two : Attempt t s (clock + s.timeout) c (sent + 1) target more d outcome) :
    InTime t (clock + s.timeout) clock sent (requests ++ more) d := by
  have elapsed := two.elapsed
  have once := paced.once one
  obtain ⟨q, a, rfl, rfl, asked, -, -, received⟩ := one.source
  rcases two.requested with rfl | ⟨p, rfl, again⟩
  · exact ⟨elapsed, once.punctual, once.shrinking⟩
  · obtain ⟨v, start, -⟩ := paced.started.rounds
    obtain ⟨b, value⟩ := paced.answered received.inTime
    have reading := paced.deadlineReading
    have second := again.punctual reading paced.clockReading.exact value
    refine ⟨elapsed, ?_, ?_⟩
    · rintro (_ | _ | k) _ ⟨rfl⟩
      · exact once.punctual 0 q rfl
      · exact second
    · rintro _ _ ⟨rfl⟩ ⟨rfl⟩
      have later := Double.sumAfter paced.started (paced.forward sent)
      rw [Double.atMostLess (Double.valueNotNan start) (Double.valueNotNan value),
        Double.lessFinite value start] at later
      rw [(once.punctual 0 q rfl).remaining, second.remaining]
      exact Double.subAntitone reading.number reading.exact paced.started.exact
        paced.clockReading.exact start value (by simpa using later)

theorem Course.inTime {outcome : Except FetchStop Page} (paced : Paced t s clock sent)
    (course : Course t s url clock sent requests c outcome) :
    InTime t (clock + s.timeout) clock sent requests c ∧
      ∀ page, outcome = .ok page → c.atMost (clock + s.timeout) = true := by
  have reading := paced.deadlineReading
  cases course with
  | unsendable => exact ⟨⟨rfl, nofun, nofun⟩, nofun⟩
  | stopped one => exact ⟨paced.once one, nofun⟩
  | refused one settled failure => exact ⟨paced.once one, nofun⟩
  | unresolved one pointed => exact ⟨paced.once one, nofun⟩
  | astray one pointed resolved two => exact ⟨paced.twice one two, nofun⟩
  | page one settled success =>
    refine ⟨paced.once one, fun _ _ => ?_⟩
    obtain ⟨q, a, rfl, rfl, -, -, -, received⟩ := one.source
    exact reading.atMost paced.clockReading.number received.inTime
  | followed one pointed resolved two =>
    refine ⟨paced.twice one two, fun _ _ => ?_⟩
    obtain ⟨q, a, rfl, rfl, -, -, -, first⟩ := one.source
    obtain ⟨p, b, rfl, rfl, -, -, -, second⟩ := two.source
    obtain ⟨v, value⟩ := paced.answered first.inTime
    exact reading.atMost (Double.sumNotNan value (paced.forward _)) second.inTime

theorem fetchReached {w : World} (sendable : s.Sendable) {a : Http.Address} {r : Response}
    {location target : String}
    (received : Received t (w.clock + s.timeout) w.clock w.requests.length url a r)
    (points : Points r location) (resolved : Url.resolve url location = .ok target)
    (reached : (w.clock + s.timeout - (w.clock + (t w.requests.length).elapse)).atMost 0 = true) :
    (fetch t s url w).1 = .error (.failed (.timeout s.timeout)) ∧
      (fetch t s url w).2.requests.length = w.requests.length + 1 := by
  obtain ⟨u, clock, number, ends⟩ := fetchReceived sendable received
  rw [← clock] at reached
  rw [ends (.astray (pointsTo.mpr points) resolved (.spent reached))]
  exact ⟨rfl, number⟩

end

end Fetch

theorem fetchInTime {t : Transport} {s : Settings} {w : World}
    (paced : Fetch.Paced t s w.clock w.requests.length) (url : String) :
    (∃ requests, (fetch t s url w).2.requests = w.requests ++ requests ∧
      Fetch.InTime t (w.clock + s.timeout) w.clock w.requests.length requests
        (fetch t s url w).2.clock) ∧
    (∀ page, (fetch t s url w).1 = .ok page →
      (fetch t s url w).2.clock.atMost (w.clock + s.timeout) = true) ∧
    (s.Sendable → ∀ address r location target,
      Fetch.Received t (w.clock + s.timeout) w.clock w.requests.length url address r →
      Fetch.Points r location → Url.resolve url location = .ok target →
      (w.clock + s.timeout).atMost (w.clock + (t w.requests.length).elapse) = true →
      (fetch t s url w).1 = .error (.failed (.timeout s.timeout)) ∧
        (fetch t s url w).2.requests.length = w.requests.length + 1) := by
  obtain ⟨requests, sent, course⟩ := Fetch.fetchCourse t s url w
  obtain ⟨inTime, page⟩ := course.inTime paced
  refine ⟨⟨requests, sent, inTime⟩, page, ?_⟩
  intro sendable address r location target received points resolved reached
  obtain ⟨b, value⟩ := paced.answered received.inTime
  exact Fetch.fetchReached sendable received points resolved
    (Double.subReached paced.deadlineReading.exact paced.clockReading.exact value reached)

theorem redirectAtDeadline :
    let t : Transport := .ofReply fun _ => ⟨10, .response ⟨302, .ofList [("Location", "/b")], []⟩⟩
    Fetch.Paced t .unset World.start.clock 0 ∧
    (fetch t .unset "https://a.b/" .start).1 = .error (.failed (.timeout 10)) ∧
    (fetch t .unset "https://a.b/" .start).2.requests.length = 1 := by
  intro t
  have waited : Double.atMost 0 10 = true := by decide +kernel
  have paced : Fetch.Paced t .unset World.start.clock 0 :=
    ⟨by decide +kernel, fun _ => waited, ⟨0, rfl, by decide +kernel⟩, .inl (by decide +kernel)⟩
  have received : Fetch.Received t (World.start.clock + Settings.unset.timeout)
      World.start.clock 0 "https://a.b/" ⟨"https".toList, [], "a.b".toList, none, ['/'], none, none⟩
      ⟨302, .ofList [("Location", "/b")], []⟩ :=
    ⟨⟨by decide +kernel, by decide +kernel, rfl⟩, by decide +kernel, by decide +kernel,
      by decide +kernel⟩
  obtain ⟨-, -, reached⟩ := fetchInTime (w := .start) paced "https://a.b/"
  exact ⟨paced, reached Settings.unsetSendable _ _ "/b" "https://a.b/b" received
    ⟨by decide, by decide +kernel, by decide +kernel⟩ (by decide +kernel) (by decide +kernel)⟩

/- A location that only the client cannot read is a failure of the connection, deadline or not, and
an infinite wait for an infinite deadline leaves a time that is no number. -/
theorem unreadableRedirectAtDeadline :
    let t : Transport := .ofReply fun _ =>
      ⟨10, .response ⟨302, .ofList [("Location", "https://c.d:x/")], []⟩⟩
    let endless : Transport := .ofReply fun _ =>
      ⟨.infinite false, .response ⟨302, .ofList [("Location", "/b")], []⟩⟩
    let patient : Settings := { Settings.unset with timeout := .infinite false }
    World.start.clock + Settings.unset.timeout = World.start.clock + (t 0).elapse ∧
    Url.resolve "https://a.b/" "https://c.d:x/" = .ok "https://c.d:x/" ∧
    (fetch t .unset "https://a.b/" .start).1 = .error (.failed
      (.connection "Invalid URL in location header: Invalid port: 'x'.")) ∧
    (fetch endless patient "https://a.b/" .start).2.requests.map Request.timeout =
      [.infinite false, .nan] := by
  intro t endless patient
  have sendable : patient.Sendable := Settings.unsetSendable
  rw [Fetch.fetchSendable Settings.unsetSendable, Fetch.fetchSendable sendable]
  exact ⟨by decide +kernel, by decide +kernel, by decide +kernel, by decide +kernel⟩

end PageAudit
