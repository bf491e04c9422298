import PageAudit.Proofs.Audit.Outcome
import PageAudit.Service.Basic
/-!
How the service answers a call for an audit. What the call asks for in a wrong way is refused before
any request; an audit that breaks is the fault of the service; every other one is sent as it is.
-/
namespace PageAudit.Service

structure Asks (call : Call) (r : Route) : Prop where
  method : call.method = r.method
  path : Route.ofPath? (pathOf call) = some r

inductive Refused (call : Call) : Prop
  | body {e : BodyError} (unread : Order.ofCall call = .error e)
  | site {order : Order} {e : SiteError} (read : Order.ofCall call = .ok order)
    (rejected : validateSite order.site = .error e)

structure Accepted (call : Call) (order : Order) (clean : String) : Prop where
  read : Order.ofCall call = .ok order
  site : validateSite order.site = .ok clean

inductive SelectsBy (order : Order) : String → Prop
  | given {token : String} (given : order.token = some token) (filled : token ≠ "") :
    SelectsBy order token
  | every (missing : ∀ token, order.token = some token → token = "") : SelectsBy order "all"

def Siteless (call : Call) : Prop :=
  call.body.isEmpty = true ∨
    ∃ value, Json.parse (some maxDigits) (Order.withoutMark call.body) = .ok value ∧
      value.get? "siteUrl" = none ∧ value.get? "site_url" = none

def Breaks (auditor : Auditor) (s : Settings) (clean : String) : Prop :=
  Fetch.Derailed auditor.transport s clean World.start.clock 0 ∨
    Fetch.Struck auditor.transport s clean World.start.clock 0

section
variable {auditor : Auditor} {s : Settings} {call : Call} {order : Order} {clean : String}

theorem fieldMissing {value : Json} {names : List String} (missing : Option String)
    (absent : ∀ name ∈ names, value.get? name = none) :
    Order.textField value names missing = .ok missing := by
  have nothing : Order.present? value names = none := by
    simp only [Order.present?, List.findSome?_eq_none_iff, Option.map_eq_none_iff]
    exact absent
  simp only [Order.textField, nothing]

theorem sitelessJson {value : Json} (siteUrl : value.get? "siteUrl" = none)
    (site_url : value.get? "site_url" = none) (read : Order.ofJson value = .ok order) :
    order.site = none := by
  cases value with
  | null =>
    cases read
    rfl
  | object fields =>
    have absent : Order.textField (.object fields) ["siteUrl", "site_url"] none = .ok none :=
      fieldMissing none (by simp [siteUrl, site_url])
    simp only [Order.ofJson, Order.empty, absent, bind, Except.bind] at read
    split at read
    · cases read
    · cases read
      rfl
  | bool b => cases read
  | number text => cases read
  | string text => cases read
  | list items => cases read

theorem siteless (nowhere : Siteless call) (read : Order.ofCall call = .ok order) :
    order.site = none := by
  unfold Order.ofCall at read
  split at read
  · cases read
    rfl
  · rename_i filled
    rcases nowhere with empty | ⟨value, parsed, siteUrl, site_url⟩
    · exact absurd empty filled
    · split at read
      · rw [parsed] at read
        exact sitelessJson siteUrl site_url read
      · cases read

theorem Accepted.unrefused (accepted : Accepted call order clean) : ¬Refused call := by
  rintro (⟨unread⟩ | ⟨read, rejected⟩)
  · cases accepted.read.symm.trans unread
  · obtain ⟨rfl⟩ := accepted.read.symm.trans read
    cases accepted.site.symm.trans rejected

theorem Accepted.once {other : Order} {site : String} (one : Accepted call order clean)
    (two : Accepted call other site) : order = other ∧ clean = site := by
  obtain ⟨rfl⟩ := one.read.symm.trans two.read
  obtain ⟨rfl⟩ := one.site.symm.trans two.site
  exact ⟨rfl, rfl⟩

theorem tokenChosen (order : Order) : SelectsBy order (tokenOf order) := by
  unfold tokenOf
  cases given : order.token with
  | none =>
    refine .every fun token told => ?_
    cases given.symm.trans told
  | some token =>
    by_cases empty : token = ""
    · subst empty
      refine .every fun token told => ?_
      exact Option.some.inj (told.symm.trans given)
    · rw [Option.filter_some_pos (by simpa using empty)]
      exact .given given empty

theorem refusedReply (auditor : Auditor) (refused : Refused call) :
    (analyze auditor call).1.status = 400 ∧ (analyze auditor call).2 = .start := by
  rcases refused with @⟨e, unread⟩ | @⟨order, e, read, rejected⟩
  · simp only [analyze, unread, and_true]
    cases e <;> rfl
  · simp only [analyze, read, audit, Auditor.analyzeRefused rejected, and_true]
    rfl

theorem acceptedReply (read : auditor.settings = .ok s) (accepted : Accepted call order clean) :
    (Breaks auditor s clean ∧ (analyze auditor call).1.status = 500) ∨
      (¬Breaks auditor s clean ∧ (analyze auditor call).1.status = 200 ∧
        ∃ a, (auditor.analyze order.site (some (tokenOf order)) .start).1 = .ok a ∧
          (analyze auditor call).1.content = .json a.toJson) := by
  have breaks := Auditor.analyzeBreaks (w := .start) accepted.site read (some (tokenOf order))
  have errors := fun e => Auditor.analyzeErrors (w := .start) (e := e) accepted.site read
    (some (tokenOf order))
  simp only [analyze, accepted.read, audit]
  cases ended : auditor.analyze order.site (some (tokenOf order)) .start with
  | mk outcome w =>
    rw [ended] at breaks errors
    cases outcome with
    | ok a =>
      refine .inr ⟨fun broken => ?_, rfl, a, rfl, rfl⟩
      obtain ⟨fault, unlike⟩ := breaks.mpr broken
      cases unlike
    | error e =>
      obtain ⟨fault, rfl, -⟩ := errors e rfl
      exact .inl ⟨breaks.mp ⟨fault, rfl⟩, rfl⟩

theorem refusedOr (call : Call) : Refused call ∨ ∃ order clean, Accepted call order clean := by
  cases read : Order.ofCall call with
  | error e => exact .inl (.body read)
  | ok order =>
    cases site : validateSite order.site with
    | error e => exact .inl (.site read site)
    | ok clean => exact .inr ⟨order, clean, read, site⟩

theorem openStatus (call : Call) (r : Reply) : (openTo call r).status = r.status := by
  unfold openTo
  cases call.headers.get? "origin" <;> rfl

theorem openContent (call : Call) (r : Reply) : (openTo call r).content = r.content := by
  unfold openTo
  cases call.headers.get? "origin" <;> rfl

theorem answerAnalyze (asks : Asks call .analyze) :
    answer auditor call = (openTo call (analyze auditor call).1, (analyze auditor call).2) := by
  have unasked : askedMethod? call = none := by
    simp only [askedMethod?, asks.method]
    rfl
  simp only [answer, unasked, route, asks.path, asks.method, bne_self_eq_false, Bool.false_eq_true,
    if_false]

end

theorem answerOutcomes {auditor : Auditor} {s : Settings} (read : auditor.settings = .ok s)
    {call : Call} (asks : Asks call .analyze) :
    ((answer auditor call).1.status = 200 ∨ (answer auditor call).1.status = 400 ∨
      (answer auditor call).1.status = 500) ∧
    ((answer auditor call).1.status = 400 ↔ Refused call) ∧
    (Refused call → (answer auditor call).2.requests = []) ∧
    (∀ order, Siteless call → Order.ofCall call = .ok order → order.site = none) ∧
    ((answer auditor call).1.status = 500 ↔
      ∃ order clean, Accepted call order clean ∧ Breaks auditor s clean) ∧
    ((answer auditor call).1.status = 200 → ∃ order clean token a, Accepted call order clean ∧
      SelectsBy order token ∧ (auditor.analyze order.site (some token) .start).1 = .ok a ∧
      (answer auditor call).1.content = .json a.toJson) := by
  rw [answerAnalyze asks]
  simp only [openStatus, openContent]
  rcases refusedOr call with refused | ⟨order, clean, accepted⟩
  · obtain ⟨status, silent⟩ := refusedReply auditor refused
    rw [status, silent]
    refine ⟨.inr (.inl rfl), iff_of_true rfl refused, fun _ => rfl, fun _ => siteless,
      iff_of_false nofun ?_, nofun⟩
    rintro ⟨_, _, accepted, -⟩
    exact accepted.unrefused refused
  · have unrefused := accepted.unrefused
    -- A call has at most one site, so what breaks is the audit of that one.
    have broken : (∃ order clean, Accepted call order clean ∧ Breaks auditor s clean) ↔
        Breaks auditor s clean := by
      constructor
      · rintro ⟨_, _, other, breaks⟩
        obtain ⟨rfl, rfl⟩ := accepted.once other
        exact breaks
      · exact fun breaks => ⟨order, clean, accepted, breaks⟩
    rw [broken]
    rcases acceptedReply read accepted with ⟨breaks, status⟩ | ⟨whole, status, a, result, content⟩
    · rw [status]
      exact ⟨.inr (.inr rfl), iff_of_false nofun unrefused, fun refused => absurd refused unrefused,
        fun _ => siteless, iff_of_true rfl breaks, nofun⟩
    · rw [status]
      exact ⟨.inl rfl, iff_of_false nofun unrefused, fun refused => absurd refused unrefused,
        fun _ => siteless, iff_of_false nofun whole,
        fun _ => ⟨order, clean, _, a, accepted, tokenChosen order, result, content⟩⟩

def callForNothing : Call :=
  ⟨"POST", "/api/analyze", .ofList [("content-type", "application/json")],
    "\x7b\"siteUrl\": \"https://a.b/\", \"sourceFilter\": \"none-such\"\x7d"⟩

theorem callForNothingAsks : Asks callForNothing .analyze := ⟨rfl, by decide +kernel⟩

theorem callForNothingAccepted :
    Accepted callForNothing ⟨some "https://a.b/", some "none-such"⟩ "https://a.b/" :=
  ⟨by decide +kernel, Auditor.paragraphAccepted⟩

theorem explodingTransportAnswered :
    let exploding : Transport := .ofReply fun _ => ⟨0, .broken ⟨"RuntimeError", "boom"⟩⟩
    let auditor : Auditor := ⟨exploding, .ok .unset, "now"⟩
    Fetch.Struck auditor.transport .unset "https://a.b/" World.start.clock 0 ∧
    (answer auditor callForNothing).1.status = 500 := by
  intro exploding auditor
  have struck : Fetch.Struck auditor.transport .unset "https://a.b/" World.start.clock 0 :=
    ⟨Settings.unsetSendable, .inl ⟨by decide +kernel,
      ⟨⟨"https".toList, [], "a.b".toList, none, ['/'], none, none⟩, by decide +kernel⟩, _, rfl⟩⟩
  have read : auditor.settings = .ok .unset := rfl
  obtain ⟨-, -, -, -, broken, -⟩ := answerOutcomes read callForNothingAsks
  exact ⟨struck, broken.mpr ⟨_, _, callForNothingAccepted, .inr struck⟩⟩

theorem accentedAgentAnswered :
    let s : Settings := { Settings.unset with userAgent := "é" }
    let auditor : Auditor := ⟨.always ⟨200, .empty, []⟩, .ok s, "now"⟩
    Asks callForNothing .analyze ∧
    Accepted callForNothing ⟨some "https://a.b/", some "none-such"⟩ "https://a.b/" ∧
    auditor.transport.Honest ∧ (answer auditor callForNothing).1.status = 500 := by
  intro s auditor
  have unsendable : ¬s.Sendable := by
    rw [← Fetch.headersSendable]
    decide +kernel
  refine ⟨callForNothingAsks, callForNothingAccepted, fun _ _ => nofun, ?_⟩
  rw [answerAnalyze callForNothingAsks]
  simp only [openStatus]
  have read : auditor.settings = .ok s := rfl
  rcases acceptedReply read callForNothingAccepted with ⟨-, status⟩ | ⟨whole, -⟩
  · exact status
  · exact absurd (.inl (.inl unsendable)) whole

end PageAudit.Service
