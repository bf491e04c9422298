import PageAudit.Proofs.Fetch.Faults
/-!
The course of a fetch, whatever its transport does: one attempt, and after a response that points
somewhere a second one. What an attempt sends and what it makes of the answer is said here once.
-/
namespace PageAudit

def FetchStop.isStatus : FetchStop → Bool
  | .failed (.status _ _) => true
  | _ => false

namespace Fetch

structure Asked (s : Settings) (deadline clock : Number.Double) (url : String) (q : Request) :
    Prop where
  early : (deadline - clock).atMost 0 = false
  sent : ∃ address, Http.requestAddress url = .ok address ∧
    q = ⟨address.write, s.userAgent, s.accept, deadline - clock⟩

inductive Attempt (t : Transport) (s : Settings) (deadline clock : Number.Double) (sent : Nat)
    (url : String) : List Request → Number.Double → Except FetchStop (String × Response) → Prop
  | unsent {stop : FetchStop} (unlike : stop.isStatus = false) :
    Attempt t s deadline clock sent url [] clock (.error stop)
  | lost {q : Request} {stop : FetchStop} (asked : Asked s deadline clock url q)
    (unlike : stop.isStatus = false) :
    Attempt t s deadline clock sent url [q] (clock + (t sent).elapse) (.error stop)
  | received {q : Request} {address : Http.Address} {r : Response}
    (asked : Asked s deadline clock url q) (named : q.url = address.write)
    (received : Received t deadline clock sent url address r) :
    Attempt t s deadline clock sent url [q] (clock + (t sent).elapse) (.ok (q.url, r))

inductive Course (t : Transport) (s : Settings) (url : String) (clock : Number.Double)
    (sent : Nat) : List Request → Number.Double → Except FetchStop Page → Prop
  | unsendable {fault : Fault} : Course t s url clock sent [] clock (.error (.broken fault))
  | stopped {first : List Request} {c : Number.Double} {stop : FetchStop}
    (one : Attempt t s (clock + s.timeout) clock sent url first c (.error stop)) :
    Course t s url clock sent first c (.error stop)
  | page {first : List Request} {c : Number.Double} {address : String} {r : Response}
    (one : Attempt t s (clock + s.timeout) clock sent url first c (.ok (address, r)))
    (settled : location? r = none) (success : Http.isSuccess r.status = true) :
    Course t s url clock sent first c (.ok (.ofResponse t address r))
  | refused {first : List Request} {c : Number.Double} {address : String} {r : Response}
    (one : Attempt t s (clock + s.timeout) clock sent url first c (.ok (address, r)))
    (settled : location? r = none) (failure : Http.isSuccess r.status = false) :
    Course t s url clock sent first c (.error (.failed (.status r.status (Http.reason r.status))))
  | unresolved {first : List Request} {c : Number.Double} {address location text : String}
    {r : Response}
    (one : Attempt t s (clock + s.timeout) clock sent url first c (.ok (address, r)))
    (pointed : location? r = some location) :
    Course t s url clock sent first c (.error (.failed (.connection text)))
  | astray {first second : List Request} {c d : Number.Double}
    {address location target : String} {r : Response} {stop : FetchStop}
    (one : Attempt t s (clock + s.timeout) clock sent url first c (.ok (address, r)))
    (pointed : location? r = some location) (resolved : Url.resolve url location = .ok target)
    (two : Attempt t s (clock + s.timeout) c (sent + 1) target second d (.error stop)) :
    Course t s url clock sent (first ++ second) d (.error stop)
  | followed {first second : List Request} {c d : Number.Double}
    {address location target last : String} {r q : Response}
    (one : Attempt t s (clock + s.timeout) clock sent url first c (.ok (address, r)))
    (pointed : location? r = some location) (resolved : Url.resolve url location = .ok target)
    (two : Attempt t s (clock + s.timeout) c (sent + 1) target second d (.ok (last, q))) :
    Course t s url clock sent (first ++ second) d (.ok (.ofResponse t last q))

section
variable {t : Transport} {s : Settings} {deadline clock : Number.Double} {sent : Nat}
  {url : String} {w u v : World}

theorem Tried.attempt {outcome : Except FetchStop (String × Response)}
    (tried : Tried t s deadline url w outcome u) :
    ∃ requests, u.requests = w.requests ++ requests ∧
      Attempt t s deadline w.clock w.requests.length url requests u.clock outcome := by
  have asks {address : Http.Address} (early : (deadline - w.clock).atMost 0 = false)
      (addressed : Http.requestAddress url = .ok address) :
      Asked s deadline w.clock url (requestTo s deadline address w) :=
    ⟨early, address, addressed, rfl⟩
  cases tried with
  | spent expired => exact ⟨[], (List.append_nil _).symm, .unsent rfl⟩
  | unaddressed early unread => exact ⟨[], (List.append_nil _).symm, .unsent rfl⟩
  | waited early addressed silent => exact ⟨_, rfl, .lost (asks early addressed) rfl⟩
  | lost early addressed failure => exact ⟨_, rfl, .lost (asks early addressed) rfl⟩
  | thrown early addressed broken => exact ⟨_, rfl, .lost (asks early addressed) rfl⟩
  | relative answered | unresolved answered | misled answered | late answered =>
    exact ⟨_, rfl, .lost (asks answered.early answered.addressed) rfl⟩
  | received received =>
    exact ⟨_, rfl, .received (asks received.early received.addressed) rfl received⟩

theorem Attempt.source {requests : List Request} {c : Number.Double} {address : String}
    {r : Response}
    (attempt : Attempt t s deadline clock sent url requests c (.ok (address, r))) :
    ∃ q a, requests = [q] ∧ c = clock + (t sent).elapse ∧ Asked s deadline clock url q ∧
      address = q.url ∧ q.url = a.write ∧ Received t deadline clock sent url a r := by
  cases attempt with
  | received asked named received => exact ⟨_, _, rfl, rfl, asked, rfl, named, received⟩

theorem Settled.course {address : String} {r : Response} {page : Except FetchStop Page}
    {first : List Request}
    (settled : Settled t s (clock + s.timeout) url address r u page v)
    (one : Attempt t s (clock + s.timeout) clock w.requests.length url first u.clock
      (.ok (address, r)))
    (sent : u.requests = w.requests ++ first) :
    ∃ requests, v.requests = w.requests ++ requests ∧
      Course t s url clock w.requests.length requests v.clock page := by
  -- The second attempt counts on from the one request of the first.
  have again {target : String} {outcome : Except FetchStop (String × Response)}
      (two : Tried t s (clock + s.timeout) target (u.tell (.redirected url target r.status))
        outcome v) :
      ∃ second, v.requests = w.requests ++ (first ++ second) ∧
        Attempt t s (clock + s.timeout) u.clock (w.requests.length + 1) target second v.clock
          outcome := by
    obtain ⟨second, more, attempt⟩ := two.attempt
    obtain ⟨q, _, single, _⟩ := one.source
    have number : u.requests.length = w.requests.length + 1 := by
      rw [sent, List.length_append, single, List.length_singleton]
    have all : v.requests = w.requests ++ (first ++ second) := by
      rw [← List.append_assoc, ← sent]
      exact more
    exact ⟨second, all, number ▸ attempt⟩
  cases settled with
  | page nowhere success => exact ⟨first, sent, .page one nowhere success⟩
  | refused nowhere failure => exact ⟨first, sent, .refused one nowhere failure⟩
  | unresolved pointed unresolved => exact ⟨first, sent, .unresolved one pointed⟩
  | astray pointed resolved two =>
    obtain ⟨second, all, attempt⟩ := again two
    exact ⟨first ++ second, all, .astray one pointed resolved attempt⟩
  | followed pointed resolved two =>
    obtain ⟨second, all, attempt⟩ := again two
    exact ⟨first ++ second, all, .followed one pointed resolved attempt⟩

theorem fetchCourse (t : Transport) (s : Settings) (url : String) (w : World) :
    ∃ requests, (fetch t s url w).2.requests = w.requests ++ requests ∧
      Course t s url w.clock w.requests.length requests (fetch t s url w).2.clock
        (fetch t s url w).1 := by
  obtain ⟨page, v, fetched⟩ := someFetched t s url w
  rw [fetched.reached]
  cases fetched with
  | unsendable header => exact ⟨[], (List.append_nil _).symm, .unsendable⟩
  | stopped header one =>
    obtain ⟨first, sent, attempt⟩ := one.attempt
    exact ⟨first, sent, .stopped attempt⟩
  | settled header one rest =>
    obtain ⟨first, sent, attempt⟩ := one.attempt
    exact rest.course attempt sent

end

end Fetch

end PageAudit
