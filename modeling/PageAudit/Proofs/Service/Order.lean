import PageAudit.Proofs.Json.Reading
import PageAudit.Proofs.Rule.Selection
import PageAudit.Proofs.Service.Outcome
/-!
Orders as the body of a call. What is written for a site and a token is read as the order for both,
and an empty token selects what no token selects.
-/
namespace PageAudit.Service

def Order.toJson (site token : String) : Json :=
  .object [("siteUrl", .string site), ("sourceFilter", .string token)]

def callFor (site token : String) : Call :=
  ⟨"POST", "/api/analyze", .ofList [("content-type", "application/json")],
    (Order.toJson site token).line⟩

theorem pathSame {call other : Call} (same : call.path = other.path) :
    pathOf call = pathOf other := by
  unfold pathOf
  rw [same]

theorem callForAsks (site token : String) : Asks (callFor site token) .analyze where
  method := rfl
  path := by
    have same : pathOf (callFor site token) = pathOf callForNothing := pathSame rfl
    rw [same]
    exact callForNothingAsks.path

theorem unmarked {text : String} {c : Char} {rest : List Char} (starts : text.toList = c :: rest)
    (mark : c ≠ '\uFEFF') : Order.withoutMark text = text := by
  unfold Order.withoutMark
  rw [starts]
  split
  · rename_i same
    exact absurd (List.cons.inj same).1 mark
  · rfl

theorem orderPlain (limit : Option Nat) (site token : String) :
    Json.Plain limit (Order.toJson site token) := by
  refine .object ?_
  simp only [List.forall_mem_cons, List.not_mem_nil, false_implies, implies_true, and_true,
    Json.Plain.string]

theorem jsonSent (site token : String) :
    Order.isJsonType (((callFor site token).headers.get? "content-type").getD "") = true := by
  change Order.isJsonType ((callForNothing.headers.get? "content-type").getD "") = true
  decide

theorem callForRead (site token : String) :
    Order.ofCall (callFor site token) = .ok ⟨some site, some token⟩ := by
  have starts : (callFor site token).body.toList = '\x7b' :: _ := Json.objectWritten ..
  have filled : ¬(callFor site token).body.isEmpty = true := by
    intro empty
    rw [String.isEmpty_iff.mp empty] at starts
    cases starts
  have body : Order.withoutMark (callFor site token).body = (Order.toJson site token).line :=
    unmarked starts (by decide)
  unfold Order.ofCall
  rw [if_neg filled, if_pos (jsonSent site token), body, Json.line,
    Json.parseRead Json.inlineNeat (orderPlain _ site token)]
  rfl

theorem tokenSelects (site : Option String) (filter : String) :
    select (some (tokenOf ⟨site, some filter⟩)) catalog = select (some filter) catalog := by
  unfold tokenOf
  cases empty : filter.isEmpty with
  | false => simp [Option.filter_some, empty]
  | true => simp [Option.filter_some, empty, select]

theorem breaksHonest {auditor : Auditor} {s : Settings} {clean : String}
    (honest : auditor.transport.Honest) :
    Breaks auditor s clean ↔ Fetch.Derailed auditor.transport s clean World.start.clock 0 :=
  (fetchBreaks auditor.transport s clean .start).symm.trans (fetchBroken honest s clean .start)

theorem orderedRequests (auditor : Auditor) {call : Call} {order : Order}
    (read : Order.ofCall call = .ok order) : (analyze auditor call).2.requests =
      (auditor.analyze order.site (some (tokenOf order)) .start).2.requests := by
  simp only [analyze, read, audit]
  rcases auditor.analyze order.site (some (tokenOf order)) .start with ⟨outcome, w⟩
  cases outcome with
  | ok a => rfl
  | error e => cases e <;> rfl

end PageAudit.Service
