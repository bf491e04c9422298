import PageAudit.Proofs.Fetch.Ways
/-!
What a fetch depends on. Events told before it change nothing but the history, so a fetch is decided
by the clock and the number of requests sent so far.
-/
namespace PageAudit

def World.after (w : World) (events : List Event) : World := { w with events := events ++ w.events }

namespace World

@[simp] theorem afterRequests (w : World) (events : List Event) :
    (w.after events).requests = w.requests := rfl

@[simp] theorem tellAfter (w : World) (events : List Event) (e : Event) :
    (w.after events).tell e = (w.tell e).after events := by
  simp [after, tell]

theorem silentAfter (w : World) : ({ w with events := [] } : World).after w.events = w := by
  simp [after]

end World

namespace Fetch

section
variable {t : Transport} {s : Settings} {deadline : Number.Double} {url : String} {w u : World}

theorem Tried.after {outcome : Except FetchStop (String × Response)}
    (tried : Tried t s deadline url w outcome u) (events : List Event) :
    Tried t s deadline url (w.after events) outcome (u.after events) := by
  cases tried with
  | spent expired => exact .spent expired
  | unaddressed early unread =>
    rw [← World.tellAfter]
    exact .unaddressed early unread
  | waited early addressed silent =>
    rw [← World.tellAfter]
    exact .waited early addressed silent
  | lost early addressed failure =>
    rw [← World.tellAfter]
    exact .lost early addressed failure
  | thrown early addressed broken => exact .thrown early addressed broken
  | relative answered relative => exact .relative answered relative
  | unresolved answered absolute problem => exact .unresolved answered absolute problem
  | misled answered absolute problem resolved =>
    rw [← World.tellAfter]
    exact .misled answered absolute problem resolved
  | late answered absolute pointed past => exact .late answered absolute pointed past
  | received received => exact .received received

variable {page : Except FetchStop Page}

theorem Settled.after {address : String} {r : Response}
    (settled : Settled t s deadline url address r w page u) (events : List Event) :
    Settled t s deadline url address r (w.after events) page (u.after events) := by
  cases settled with
  | page nowhere success => exact .page nowhere success
  | refused nowhere failure =>
    rw [← World.tellAfter]
    exact .refused nowhere failure
  | unresolved pointed unresolved =>
    rw [← World.tellAfter]
    exact .unresolved pointed unresolved
  | astray pointed resolved two =>
    exact .astray pointed resolved (World.tellAfter .. ▸ two.after events)
  | followed pointed resolved two =>
    exact .followed pointed resolved (World.tellAfter .. ▸ two.after events)

theorem Fetched.after (fetched : Fetched t s url w page u) (events : List Event) :
    Fetched t s url (w.after events) page (u.after events) := by
  cases fetched with
  | unsendable header => exact .unsendable header
  | stopped header one => exact .stopped header (World.tellAfter .. ▸ one.after events)
  | settled header one rest =>
    exact .settled header (World.tellAfter .. ▸ one.after events) (rest.after events)

end

theorem fetchAfter (t : Transport) (s : Settings) (url : String) (w : World)
    (events : List Event) :
    fetch t s url (w.after events) = ((fetch t s url w).1, (fetch t s url w).2.after events) :=
  ((fetchFetched.mp rfl).after events).reached

theorem fetchSilent (t : Transport) (s : Settings) (url : String) (w : World) :
    (fetch t s url w).1 = (fetch t s url { w with events := [] }).1 ∧
      (fetch t s url w).2.requests = (fetch t s url { w with events := [] }).2.requests := by
  have silent := fetchAfter t s url { w with events := [] } w.events
  rw [World.silentAfter] at silent
  rw [silent, World.afterRequests]
  exact ⟨rfl, rfl⟩

theorem fetchTold (t : Transport) (s : Settings) (url : String) (w : World) (e : Event) :
    (fetch t s url (w.tell e)).1 = (fetch t s url w).1 ∧
      (fetch t s url (w.tell e)).2.requests = (fetch t s url w).2.requests := by
  obtain ⟨outcome, requests⟩ := fetchSilent t s url w
  rw [outcome, requests]
  exact fetchSilent t s url (w.tell e)

end Fetch

end PageAudit
