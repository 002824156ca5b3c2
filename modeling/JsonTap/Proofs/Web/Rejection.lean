import JsonTap.Proofs.Web.Delivered

/-!
# Rejected bodies

A body that is above the cap or no strict JSON is answered with the document about the fault that
was raised, with the status 413 or 400, unless an object in it has a key with surrogates twice: then
there is an internal error (`App.rejection_is_told_iff`).
-/

namespace JsonTap.Web

open Utf8

/-! ## Faults that are raised -/

/-- The fault that an exchange ended with. -/
def Outcome.fault? : Outcome → Option Fault
  | .malformed _ f => some f
  | .tooLarge f => some f
  | _ => none

/-- The fault that is raised while the messages of a request are read. -/
def raised? (cap : Int) (ms : List Message) : Option Fault :=
  match Gathering.empty.readAll cap ms with
  | .inl _ => none
  | .inr b => (Exchange.conclude cap b).fault?

/-- The body is above the cap, or no strict JSON. -/
def Rejected (cap : Int) (body : List Octet) : Prop :=
  ¬ Fits cap body ∨ ∃ f, Payload.parse (decode body) = .error f

/-- A body whose text is refused is rejected, whatever its size. -/
theorem rejected_of_refusal {cap : Int} {body : List Octet} {refusal : Json.Refusal}
    (h : Json.parse (decode body) = .error refusal) : Rejected cap body :=
  .inr ⟨_, by rw [Payload.parse, h]⟩

/-- A rejected body that fits is rejected for its text. -/
theorem Rejected.refusal {cap : Int} {body : List Octet} (h : Rejected cap body)
    (hfits : Fits cap body) : ∃ refusal, Json.parse (decode body) = .error refusal := by
  rcases h with hnot | ⟨f, hf⟩
  · exact absurd hfits hnot
  · cases hparse : Json.parse (decode body) with
    | ok v =>
        rw [Payload.parse, hparse] at hf
        cases hf
    | error refusal => exact ⟨refusal, rfl⟩

/-- The body is refused for a key that UTF-8 cannot hold. -/
def RepeatsSurrogates (cap : Int) (body : List Octet) : Prop :=
  Fits cap body ∧ ∃ key, Json.parse (decode body) = .error (.duplicateKey key) ∧ ¬ Encodable key

/-- A body that is rejected ends its exchange with a fault. -/
theorem Comes.rejected {cap : Int} {body : List Octet} {o : Outcome} (h : Comes cap body o)
    (hrejected : Rejected cap body) :
    ∃ f, o.fault? = some f ∧ f.Raised ∧ f.kind.status = (if Fits cap body then 400 else 413) ∧
      (∀ r now, o.reply r now = faultReply r f now) ∧
      (f.Sendable ↔ ¬ RepeatsSurrogates cap body) := by
  cases h with
  | ok hfits hparse =>
      -- such a body is not rejected
      obtain ⟨refusal, herror⟩ := hrejected.refusal hfits
      rw [hparse] at herror
      cases herror
  | @malformed refusal hfits hparse =>
      refine ⟨_, rfl, .malformed hparse, (if_pos hfits).symm, fun _ _ => rfl, ?_⟩
      rw [Fault.sendable_malformedBody_iff (Json.parse_named hparse)]
      constructor
      · rintro h ⟨-, key, hkey, hnot⟩
        rw [hparse] at hkey
        exact hnot (h key (Except.error.inj hkey))
      · rintro h key rfl
        by_contra hnot
        exact h ⟨hfits, key, hparse, hnot⟩
  | tooLarge hnot =>
      refine ⟨_, rfl, .tooLarge _ _, (if_neg hnot).symm, fun _ _ => rfl, ?_⟩
      exact iff_of_true (Fault.sendable_bodyTooLarge _ _) fun h => hnot h.1

/-! ## Replies to rejected bodies -/

/-- A rejected body gets one reply, about a fault whose status is told by the size of the body. -/
theorem replies_of_rejected (cap : Int) (run : List Moment) (c : Connection) {r : Request}
    {ms : List Message} {body : List Octet} (hline : OneLine r.path) (haddr : r.Addressed)
    (hbody : Delivers ms body) (hscript : script c run = .request r :: ms.map .message)
    (hrejected : Rejected cap body) :
    ∃ f now, raised? cap ms = some f ∧ f.Raised ∧
      f.kind.status = (if Fits cap body then 400 else 413) ∧
      ((App.create cap).footprint c run).replies = [faultReply r f now] ∧
      (f.Sendable ↔ ¬ RepeatsSurrogates cap body) := by
  obtain ⟨query, hquery⟩ := haddr.query
  obtain ⟨target, ht⟩ := Request.target_of_query hquery
  obtain ⟨b, hread, hcomes⟩ := hbody.comes cap
  obtain ⟨now, hfoot⟩ :=
    footprint_of_end cap (ofPath_eq_exchange_iff.mpr hline) ht hscript hread
  obtain ⟨f, hfault, hraised, hstatus, hreply, hsend⟩ := hcomes.rejected hrejected
  refine ⟨f, now, ?_, hraised, hstatus, ?_, hsend⟩
  · rw [raised?, hread]
    exact hfault
  · rw [hfoot, hreply]

/-- Every rejected body gets one reply. The reply tells the fault that was raised, with the status
413 if the body is above the cap and 400 otherwise, unless the body is refused for a key with
surrogates, which is an internal error. -/
theorem App.rejection_is_told_iff (cap : Int) (run : List Moment) (c : Connection) (r : Request)
    (ms : List Message) (body : List Octet) (hline : OneLine r.path) (haddr : r.Addressed)
    (hbody : Delivers ms body) (hscript : script c run = .request r :: ms.map .message)
    (hrejected : Rejected cap body) :
    ∃ f reply, raised? cap ms = some f ∧ f.kind.status = (if Fits cap body then 400 else 413) ∧
      ((create cap).footprint c run).replies = [reply] ∧
      (reply.Tells f ↔ ¬ RepeatsSurrogates cap body) ∧
      (¬ reply.Tells f → reply.response = some .internalError) := by
  obtain ⟨f, now, hfault, hraised, hstatus, hreplies, hsend⟩ :=
    replies_of_rejected cap run c hline haddr hbody hscript hrejected
  have htells := tells_faultReply_iff hraised r now
  refine ⟨f, faultReply r f now, hfault, hstatus, hreplies, ?_, response_of_not_tells hraised⟩
  rw [htells, ← hsend]
  exact and_iff_right haddr

def localRequest : Request := { letterRequest with host := "localhost" }

theorem addressed_localRequest : localRequest.Addressed :=
  ⟨⟨[], rfl⟩, encodable_ofString "/a"⟩

theorem reachesHandler_localRequest : localRequest.ReachesHandler :=
  ⟨rfl, by decide, _, _, rfl⟩

theorem oneLine_localRequest : OneLine localRequest.path := reachesHandler_localRequest.oneLine

/-- A number of two digits in two chunks is above a cap of one octet. -/
theorem App.rejection_is_told_iff_two_digits :
    Rejected 1 (encode "12") ∧
    ∃ f reply, raised? 1 [.chunk (encode "1") true, .chunk (encode "2") false] = some f ∧
      f.kind.status = (if Fits 1 (encode "12") then 400 else 413) ∧
      ((create 1).footprint 7 [⟨0, 7, .request localRequest⟩,
        ⟨1, 7, .message (.chunk (encode "1") true)⟩,
        ⟨2, 7, .message (.chunk (encode "2") false)⟩]).replies = [reply] ∧
      (reply.Tells f ↔ ¬ RepeatsSurrogates 1 (encode "12")) ∧
      (¬ reply.Tells f → reply.response = some .internalError) := by
  have hrejected : Rejected 1 (encode "12") := .inl (by decide)
  exact ⟨hrejected, rejection_is_told_iff 1 _ 7 localRequest _ _ oneLine_localRequest
    addressed_localRequest (.more (encode "1") (.last (encode "2") [])) rfl hrejected⟩

/-! ## A key with surrogates -/

/-- An object that has one key twice, a high surrogate without its low one. -/
def surrogateTwice : Text := "\x7b\"\\ud800\":null,\"\\ud800\":null\x7d"

/-- The escape of a lone surrogate denotes it. -/
theorem surrogate_chars : Json.Grammar.Chars (Json.unitEscape 0xD800) [0xD800] := by
  show Json.Grammar.Chars (Json.unitEscape 0xD800 ++ []) _
  refine .unit (Json.unitEscape_unit rfl (by decide)) ?_ .nil
  intro _ f l r hunit _
  cases hunit
  nofun

theorem parse_surrogateTwice :
    Json.parse surrogateTwice = .error (.duplicateKey [0xD800]) := by
  have hmember : Json.Grammar.Member _ ([0xD800], .null) :=
    .mk .nil surrogate_chars .nil .nil .nullWord .nil
  exact Json.parse_duplicateKey (.cons hmember (.one hmember)) rfl

/-- The object is no strict JSON, and the reply to it is an internal error all the same. -/
theorem App.surrogate_key_is_not_told :
    OneLine localRequest.path ∧ localRequest.Addressed ∧
      Delivers [.chunk (encode surrogateTwice) false] (encode surrogateTwice) ∧
      Rejected 0 (encode surrogateTwice) ∧
      ((create 0).footprint 7 [⟨0, 7, .request localRequest⟩,
        ⟨1, 7, .message (.chunk (encode surrogateTwice) false)⟩]).replies.map (·.response) =
          [some .internalError] ∧
      Response.internalError.status = 500 := by
  have hdecode : decode (encode surrogateTwice) = surrogateTwice :=
    decode_encode (encodable_ofString _)
  have hparse : Json.parse (decode (encode surrogateTwice)) =
      .error (.duplicateKey [0xD800]) := by rw [hdecode, parse_surrogateTwice]
  have hrejected : Rejected 0 (encode surrogateTwice) := rejected_of_refusal hparse
  have hfits : Fits 0 (encode surrogateTwice) := .inr rfl
  have hbody : Delivers [.chunk (encode surrogateTwice) false] (encode surrogateTwice) :=
    .last _ []
  obtain ⟨f, now, -, hraised, -, hreplies, hsend⟩ := replies_of_rejected 0
    [⟨0, 7, .request localRequest⟩, ⟨1, 7, .message (.chunk (encode surrogateTwice) false)⟩] 7
    oneLine_localRequest addressed_localRequest hbody rfl hrejected
  refine ⟨oneLine_localRequest, addressed_localRequest, hbody, hrejected, ?_, rfl⟩
  have hnot : ¬ f.Sendable := by
    rw [hsend, not_not]
    refine ⟨hfits, _, hparse, fun h => ?_⟩
    exact absurd (h 0xD800 (List.mem_singleton.mpr rfl)) (by decide)
  rw [hreplies, List.map_singleton, response_of_not_tells hraised]
  rw [tells_faultReply_iff hraised]
  exact fun h => hnot h.2

end JsonTap.Web
