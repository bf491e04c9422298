import PageAudit.Proofs.Fetch.Ways
/-!
What breaks a fetch: a header that cannot be sent, a response that nobody can read, and what the
transport throws. A response cannot be read if its request had no absolute address, or if it points
to where no address can be resolved.
-/
namespace PageAudit

/-- A transport that only answers, gives up waiting or fails in a way of its own. -/
def Transport.Honest (t : Transport) : Prop := ∀ n fault, (t n).answer ≠ .broken fault

def Settings.Sendable (s : Settings) : Prop :=
  ∀ value ∈ [s.userAgent, s.accept], ∀ c ∈ value.toList, c.toNat < 128

namespace Fetch

def Unreadable (address : Http.Address) (r : Response) : Prop :=
  address.isAbsolute = false ∨
    ∃ e, Http.locationProblem? address r.status r.headers = some (.unresolved e)

def Astray (t : Transport) (deadline clock : Number.Double) (sent : Nat) (url : String) : Prop :=
  ∃ address r, Answered t deadline clock sent url address r ∧ Unreadable address r

def Thrown (t : Transport) (deadline clock : Number.Double) (sent : Nat) (url : String) : Prop :=
  (deadline - clock).atMost 0 = false ∧ (∃ address, Http.requestAddress url = .ok address) ∧
    ∃ fault, (t sent).answer = .broken fault

/-- A fetch that ends in no page and in no failure of its own: on its first request, or on the one
to where the first response points. -/
def Derailed (t : Transport) (s : Settings) (url : String) (clock : Number.Double) (sent : Nat) :
    Prop :=
  ¬s.Sendable ∨ Astray t (clock + s.timeout) clock sent url ∨
    ∃ address r location target,
      Received t (clock + s.timeout) clock sent url address r ∧
      location? r = some location ∧ Url.resolve url location = .ok target ∧
      Astray t (clock + s.timeout) (clock + (t sent).elapse) (sent + 1) target

def Struck (t : Transport) (s : Settings) (url : String) (clock : Number.Double) (sent : Nat) :
    Prop :=
  s.Sendable ∧ (Thrown t (clock + s.timeout) clock sent url ∨
    ∃ address r location target,
      Received t (clock + s.timeout) clock sent url address r ∧
      location? r = some location ∧ Url.resolve url location = .ok target ∧
      Thrown t (clock + s.timeout) (clock + (t sent).elapse) (sent + 1) target)

def Upset (t : Transport) (deadline clock : Number.Double) (sent : Nat) (url : String) : Prop :=
  Astray t deadline clock sent url ∨ Thrown t deadline clock sent url

section
variable {t : Transport} {s : Settings} {deadline : Number.Double} {url : String} {w : World}

theorem headerFaultless {value : String} :
    headerFault? value = none ↔ ∀ c ∈ value.toList, c.toNat < 128 := by
  have silent : headerFault? value = none ↔
      value.toList.findIdx? (128 ≤ ·.toNat) = none := by
    unfold headerFault?
    cases place : value.toList.findIdx? (128 ≤ ·.toNat) <;> simp only [place, reduceCtorEq]
  simp only [silent, List.findIdx?_eq_none_iff, decide_eq_false_iff_not, Nat.not_le]

theorem headersSendable :
    [s.userAgent, s.accept].findSome? headerFault? = none ↔ s.Sendable := by
  simp only [List.findSome?_eq_none_iff, headerFaultless, Settings.Sendable]

theorem writtenPlain {text : List Char} (plain : (text.all fun c => c.toNat < 128) = true) :
    ∀ c ∈ (String.ofList text).toList, c.toNat < 128 := by
  intro c inside
  rw [String.toList_ofList] at inside
  exact of_decide_eq_true (List.all_eq_true.mp plain c inside)

theorem fetchSendable (sendable : s.Sendable) : fetch t s url w =
    match get t s (w.clock + s.timeout) url (w.tell (.fetchStarted url s.timeout)) with
    | (.error e, w) => (.error e, w)
    | (.ok (address, r), u) => settle t s (w.clock + s.timeout) url address r u := by
  rcases ended : get t s (w.clock + s.timeout) url (w.tell (.fetchStarted url s.timeout))
    with ⟨e | ⟨address, r⟩, u⟩ <;>
    simp only [fetch, headersSendable.mpr sendable, ended]

theorem upsetTried : Upset t deadline w.clock w.requests.length url ↔
    ∃ fault u, Tried t s deadline url w (.error (.broken fault)) u := by
  constructor
  · rintro (⟨address, r, answered, unreadable⟩ | ⟨early, ⟨address, addressed⟩, fault, broken⟩)
    · cases absolute : address.isAbsolute with
      | false => exact ⟨_, _, .relative answered absolute⟩
      | true =>
        rcases unreadable with relative | ⟨e, problem⟩
        · cases absolute.symm.trans relative
        · exact ⟨_, _, .unresolved answered absolute problem⟩
    · exact ⟨_, _, .thrown early addressed broken⟩
  · rintro ⟨fault, u, tried⟩
    cases tried with
    | thrown early addressed broken => exact .inr ⟨early, ⟨_, addressed⟩, _, broken⟩
    | relative answered relative => exact .inl ⟨_, _, answered, .inl relative⟩
    | unresolved answered absolute problem => exact .inl ⟨_, _, answered, .inr ⟨_, problem⟩⟩

theorem settledBroken {address : String} {r : Response} :
    (∃ fault u, Settled t s deadline url address r w (.error (.broken fault)) u) ↔
      ∃ location target, location? r = some location ∧ Url.resolve url location = .ok target ∧
        Upset t deadline w.clock w.requests.length target := by
  have second {target : String} : Upset t deadline w.clock w.requests.length target ↔
      ∃ fault u, Tried t s deadline target (w.tell (.redirected url target r.status))
        (.error (.broken fault)) u := upsetTried (w := w.tell _)
  constructor
  · rintro ⟨fault, u, settled⟩
    cases settled with
    | astray pointed resolved two => exact ⟨_, _, pointed, resolved, second.mpr ⟨_, _, two⟩⟩
  · rintro ⟨location, target, pointed, resolved, upset⟩
    obtain ⟨fault, u, two⟩ := second.mp upset
    exact ⟨fault, u, .astray pointed resolved two⟩

theorem secondBroken {first : String} {address : Http.Address} {r : Response} :
    (∃ fault u, Settled t s deadline url first r (asked t s deadline address w)
        (.error (.broken fault)) u) ↔
      ∃ location target, location? r = some location ∧ Url.resolve url location = .ok target ∧
        Upset t deadline (w.clock + (t w.requests.length).elapse) (w.requests.length + 1)
          target := by
  rw [settledBroken, askedClock, askedNumber]

theorem fetchUpset (t : Transport) (s : Settings) (url : String) (w : World) :
    (∃ fault, (fetch t s url w).1 = .error (.broken fault)) ↔
      ¬s.Sendable ∨ Upset t (w.clock + s.timeout) w.clock w.requests.length url ∨
        ∃ address r location target,
          Received t (w.clock + s.timeout) w.clock w.requests.length url address r ∧
          location? r = some location ∧ Url.resolve url location = .ok target ∧
          Upset t (w.clock + s.timeout) (w.clock + (t w.requests.length).elapse)
            (w.requests.length + 1) target := by
  simp only [fetchEnds]
  have first : Upset t (w.clock + s.timeout) w.clock w.requests.length url ↔
      ∃ fault u, Tried t s (w.clock + s.timeout) url (w.tell (.fetchStarted url s.timeout))
        (.error (.broken fault)) u := upsetTried (w := w.tell _)
  rw [first]
  cases header : [s.userAgent, s.accept].findSome? headerFault? with
  | some fault =>
    have unsendable : ¬s.Sendable := by
      rw [← headersSendable, header]
      exact nofun
    exact iff_of_true ⟨fault, w, .unsendable header⟩ (.inl unsendable)
  | none =>
    rw [or_iff_right (not_not_intro (headersSendable.mp header))]
    constructor
    · rintro ⟨fault, v, fetched⟩
      cases fetched with
      | unsendable fails => cases header.symm.trans fails
      | stopped _ one => exact .inl ⟨_, _, one⟩
      | settled _ one rest =>
        cases one with
        | received received =>
          obtain ⟨location, target, second⟩ := secondBroken.mp ⟨_, _, rest⟩
          exact .inr ⟨_, _, location, target, received, second⟩
    · rintro (⟨fault, u, one⟩ | ⟨address, r, location, target, received, second⟩)
      · exact ⟨fault, u, .stopped header one⟩
      · obtain ⟨fault, u, rest⟩ :=
          (secondBroken (w := w.tell _)).mpr ⟨location, target, second⟩
        exact ⟨fault, u, .settled header (.received received) rest⟩

end

end Fetch

theorem fetchBreaks (t : Transport) (s : Settings) (url : String) (w : World) :
    (∃ fault, (fetch t s url w).1 = .error (.broken fault)) ↔
      Fetch.Derailed t s url w.clock w.requests.length ∨
        Fetch.Struck t s url w.clock w.requests.length := by
  rw [Fetch.fetchUpset]
  by_cases sendable : s.Sendable
  · simp only [Fetch.Derailed, Fetch.Struck, Fetch.Upset, sendable, not_true, false_or, true_and,
      and_or_left, exists_or]
    exact or_or_or_comm
  · exact iff_of_true (.inl sendable) (.inl (.inl sendable))

theorem fetchBroken {t : Transport} (honest : t.Honest) (s : Settings) (url : String) (w : World) :
    (∃ fault, (fetch t s url w).1 = .error (.broken fault)) ↔
      Fetch.Derailed t s url w.clock w.requests.length := by
  rw [fetchBreaks]
  refine or_iff_left ?_
  rintro ⟨-, ⟨-, -, fault, broken⟩ | ⟨_, _, _, _, -, -, -, -, -, fault, broken⟩⟩
  · exact honest _ fault broken
  · exact honest _ fault broken

end PageAudit
