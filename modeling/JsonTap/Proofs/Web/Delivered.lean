import JsonTap.Proofs.Web.Conditions
import JsonTap.Proofs.Web.FaultReply

/-!
# Requests with their whole body

A request that gets no exchange, for its path or because its target cannot be told, is answered at
once and leaves no record (`footprint_without_exchange`). Every other request ends as its body says,
once the whole body has come: with a value, with a malformed payload or with too many octets
(`footprint_delivered`).
-/

namespace JsonTap.Web

open Utf8

/-! ## Requests without an exchange -/

/-- The request begins an exchange: its path leads to one, and its target can be told. -/
def Request.Begins (r : Request) : Prop :=
  Route.ofPath r.path = .exchange ∧ ∃ target, r.target = .ok target

theorem refused_failed (failure : Failure) : Refused [.failed failure] := by
  refine ⟨_, rfl, ?_⟩
  intro response h
  cases h
  decide

theorem refused_redirectReply (r : Request) (path : Text) : Refused [redirectReply r path] := by
  rw [redirectReply]
  split
  · refine ⟨_, rfl, ?_⟩
    intro response h
    cases h
    exact (by decide : 307 ≠ 204)
  · exact refused_failed _

/-- A request that begins no exchange is answered at once, whatever the cap. -/
theorem turn_without_exchange {r : Request} (h : ¬ r.Begins) :
    ∃ reply, Refused [reply] ∧ ∀ cap x, turn cap x (.request r) = .answered reply := by
  cases hroute : Route.ofPath r.path with
  | notFound =>
      refine ⟨.sent .notFound, ⟨_, rfl, ?_⟩, fun cap x => by rw [turn, hroute]⟩
      intro response hresponse
      cases hresponse
      decide
  | redirect path =>
      exact ⟨_, refused_redirectReply r path, fun cap x => by rw [turn, hroute]⟩
  | exchange =>
      cases hstart : Exchange.start r with
      | error u => exact ⟨_, refused_failed _, fun cap x => by rw [turn, hroute, hstart]⟩
      | ok e =>
          obtain ⟨target, ht, -⟩ := start_eq_ok_iff.mp hstart
          exact absurd ⟨hroute, target, ht⟩ h

/-- A request without an exchange is answered at once, and leaves no record. -/
theorem footprint_without_exchange (cap : Int) {run : List Moment} {c : Connection} {r : Request}
    {ms : List Message} (h : ¬ r.Begins)
    (hscript : script c run = .request r :: ms.map .message) :
    ∃ reply, Refused [reply] ∧ (App.create cap).footprint c run = ⟨[], [reply], []⟩ := by
  obtain ⟨reply, hrefused, hturn⟩ := turn_without_exchange h
  obtain ⟨m, moments, hfilter, hevent, hrest⟩ := List.map_eq_cons_iff.mp hscript
  refine ⟨reply, hrefused, ?_⟩
  rw [App.footprint_eq_alone _ (App.hasBounds_create cap), hfilter, alone, hevent, hturn]
  show Footprint.append _ (alone _ none moments) = _
  rw [alone_none _ hrest]
  rfl

/-! ## Ends of exchanges -/

/-- How an exchange ends for a body that came whole. -/
inductive Comes (cap : Int) (body : List Octet) : Outcome → Prop
  | ok {v : Json.Value} :
      Fits cap body → Json.parse (decode body) = .ok v → Comes cap body (.ok body.length v)
  | malformed {refusal : Json.Refusal} :
      Fits cap body → Json.parse (decode body) = .error refusal →
      Comes cap body (.malformed body.length (.malformedBody refusal))
  | tooLarge {received : Nat} :
      ¬ Fits cap body → exceeds cap received = true → received ≤ body.length →
      Comes cap body (.tooLarge (.bodyTooLarge cap received))

/-- A body that fits comes to the outcome of its text. -/
theorem judge_comes {cap : Int} {body : List Octet} {g : Gathering} (hfits : Fits cap body)
    (hflat : g.chunks.flatten = body) (hcount : g.Counted) :
    Comes cap body (Exchange.judge g) := by
  rw [judge_eq hcount hflat, Payload.parse]
  cases hparse : Json.parse (decode body) with
  | ok v => exact .ok hfits hparse
  | error refusal => exact .malformed hfits hparse

/-- However a body is cut into chunks, its exchange ends as the body says. -/
theorem Delivers.comes {ms : List Message} {body : List Octet} (h : Delivers ms body) (cap : Int) :
    ∃ b, Gathering.empty.readAll cap ms = .inr b ∧ Comes cap body (Exchange.conclude cap b) := by
  by_cases hfits : Fits cap body
  · obtain ⟨g, hread⟩ := h.readAll_whole Gathering.counted_empty hfits
    obtain ⟨hflat, hcount⟩ := Gathering.readAll_whole Gathering.counted_empty hread
    exact ⟨_, hread, judge_comes hfits (hflat.trans h.payload) hcount⟩
  · obtain ⟨received, hread, hexceeds, hle⟩ :=
      h.readAll_tooLarge Gathering.counted_empty (fits_nil cap) hfits
    exact ⟨_, hread, .tooLarge hfits hexceeds hle⟩

/-- What is seen of a request with its whole body: the request line, and the end of its exchange. -/
theorem footprint_delivered (cap : Int) {run : List Moment} {c : Connection} {r : Request}
    {target : Text} {ms : List Message} {body : List Octet}
    (hroute : Route.ofPath r.path = .exchange) (ht : r.target = .ok target)
    (hscript : script c run = .request r :: ms.map .message) (hbody : Delivers ms body) :
    ∃ now o, Comes cap body o ∧ (App.create cap).footprint c run =
      ⟨lineRecord r.method target :: o.records (.awaiting r target), [o.reply r now],
        [o.count .zero]⟩ := by
  obtain ⟨b, hread, hcomes⟩ := hbody.comes cap
  obtain ⟨now, hfoot⟩ := footprint_of_end cap hroute ht hscript hread
  exact ⟨now, _, hcomes, hfoot⟩

end JsonTap.Web
