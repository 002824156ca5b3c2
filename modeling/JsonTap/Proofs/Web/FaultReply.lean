import JsonTap.Proofs.Encoding.RoundTrip
import JsonTap.Proofs.Json.Refusals
import JsonTap.Proofs.Web.Outcome

/-!
# Replies about faults

An exchange raises a fault for its body (`Fault.Raised`). The document about it reads back with the
kind, the message and the details of the fault, if it can be sent at all. It can be sent exactly if
the request has an address in UTF-8 and the fault names no key with surrogates
(`tells_faultReply_iff`); otherwise the reply is an internal error.
-/

namespace JsonTap

open Utf8

/-! ## Faults of exchanges -/

/-- A fault that an exchange raises for its body. -/
inductive Fault.Raised : Fault → Prop
  | malformed {t : Text} {refusal : Json.Refusal} :
      Json.parse t = .error refusal → Raised (.malformedBody refusal)
  | tooLarge (cap : Int) (received : Nat) : Raised (.bodyTooLarge cap received)

theorem FaultKind.encodable_code (k : FaultKind) : Encodable k.code := by
  cases k <;> exact encodable_ofString _

/-- UTF-8 can hold the details. -/
def Fault.Sendable (f : Fault) : Prop := (Datum.map f.details).toJson.Texts Encodable

/-- Of what a refusal names, only a key can have surrogates. -/
theorem Fault.sendable_malformedBody_iff {refusal : Json.Refusal} (h : refusal.Named) :
    (malformedBody refusal).Sendable ↔ ∀ key, refusal = .duplicateKey key → Encodable key := by
  cases refusal with
  | malformed fault place =>
      refine iff_of_true ?_ nofun
      exact ⟨encodable_ofString _, trivial, encodable_ofString _, trivial, encodable_ofString _,
        trivial, trivial⟩
  | constant name =>
      refine iff_of_true ?_ nofun
      exact ⟨encodable_ofString _, Json.encodable_foreign h, trivial⟩
  | duplicateKey key =>
      constructor
      · rintro ⟨-, hkey, -⟩ key' heq
        cases heq
        exact hkey
      · intro hkey
        exact ⟨encodable_ofString _, hkey key rfl, trivial⟩
  | outOfRange literal =>
      obtain ⟨n, hn, -, -, rfl⟩ := h
      refine iff_of_true ?_ nofun
      exact ⟨encodable_ofString _, Json.Numeral.encodable_text hn, trivial⟩

theorem Fault.sendable_bodyTooLarge (cap : Int) (received : Nat) :
    (bodyTooLarge cap received).Sendable :=
  ⟨encodable_ofString _, trivial, encodable_ofString _, trivial, trivial⟩

namespace Fault.Raised

variable {f : Fault}

/-- The details are shown as they are. -/
theorem ofJson_details (hf : f.Raised) :
    Datum.ofJson (Datum.map f.details).toJson = .map f.details := by
  cases hf with
  | @malformed t refusal h => cases refusal <;> rfl
  | tooLarge cap received => rfl

/-- The details of a fault that is raised are a strict value. -/
theorem strict_details (hf : f.Raised) : (Datum.map f.details).toJson.Strict := by
  cases hf with
  | @malformed t refusal h =>
      cases refusal <;>
        exact Json.Value.MembersStrict.of_nodup (by simp only [List.map]; decide)
          (by simp [Json.Value.Strict])
  | tooLarge cap received =>
      exact Json.Value.MembersStrict.of_nodup (by simp only [List.map]; decide)
        (by simp [Json.Value.Strict])

/-- The message of a fault that is raised can be sent. -/
theorem encodable_message (hf : f.Raised) : Encodable f.message := by
  cases hf with
  | malformed h => exact Json.Refusal.encodable_message _
  | tooLarge cap received =>
      exact encodable_append.mpr
        ⟨encodable_append.mpr ⟨encodable_ofString _, encodable_ofInt cap⟩, encodable_ofString _⟩

end Fault.Raised

namespace Web

/-! ## Paths of addresses -/

/-- In an address everything can be sent but surrogates. -/
theorem encodable_addressCodePoint (c : CodePoint) :
    Encodable (addressCodePoint c) ↔ c.isSurrogate = false := by
  rw [addressCodePoint]
  by_cases hquestion : c = '?'
  · rw [if_pos hquestion, hquestion]
    exact iff_of_true (encodable_ofString _) rfl
  rw [if_neg hquestion]
  by_cases hhash : c = '#'
  · rw [if_pos hhash, hhash]
    exact iff_of_true (encodable_ofString _) rfl
  rw [if_neg hhash]
  by_cases hback : c = '\\'
  · rw [if_pos hback, hback]
    exact iff_of_true (encodable_ofString _) rfl
  · rw [if_neg hback]
    exact List.forall_mem_singleton

/-- Escaping a path does not change whether it can be sent. -/
theorem encodable_addressPath_iff {path : Text} :
    Encodable (addressPath path) ↔ Encodable path := by
  cases path with
  | nil => exact Iff.rfl
  | cons c rest =>
      have hescaped := encodable_flatMap_iff encodable_addressCodePoint (t := c :: rest)
      rw [addressPath]
      split
      · exact hescaped
      · rw [encodable_cons]
        exact (and_iff_right rfl).trans hescaped

/-- What an address drops are no surrogates. -/
theorem encodable_filter_isDropped_iff {t : Text} :
    Encodable (t.filter (!isDropped ·)) ↔ Encodable t := by
  constructor
  · intro h c hc
    cases hdrop : isDropped c with
    | true =>
        -- what is dropped is a blank
        simp only [isDropped, Bool.or_eq_true, decide_eq_true_eq] at hdrop
        rcases hdrop with (rfl | rfl) | rfl <;> rfl
    | false => exact h c (List.mem_filter.mpr ⟨hc, by rw [hdrop]; rfl⟩)
  · intro h
    exact h.of_subset List.filter_sublist.subset

/-- The request has an address in UTF-8: its query is text, and its path has no surrogates. -/
structure Request.Addressed (r : Request) : Prop where
  query : ∃ query, r.queryText = .ok query
  path : Encodable r.path

/-- The path of the address, and whether it can be written. -/
theorem Request.urlPath_cases (r : Request) :
    (∃ path, r.urlPath = .ok path ∧ (∃ query, r.queryText = .ok query) ∧
      (Encodable path ↔ Encodable r.path)) ∨
    ∃ u, r.urlPath = .error u ∧ r.queryText = .error u := by
  rw [urlPath]
  cases r.queryText with
  | error u => exact .inr ⟨u, rfl, rfl⟩
  | ok query =>
      exact .inl ⟨_, rfl, ⟨query, rfl⟩,
        encodable_filter_isDropped_iff.trans encodable_addressPath_iff⟩

/-! ## Documents -/

/-- The document about a fault is a strict value. -/
theorem strict_faultDocument {f : Fault} (hf : f.Raised) (now : Int) (path : Text) :
    (faultDocument f now path).Strict := by
  apply Json.Value.MembersStrict.of_nodup
  · simp only [List.map]
    decide
  · simp [Json.Value.Strict, hf.strict_details]

/-- The document can be sent exactly if the details of the fault and the path can. -/
theorem texts_faultDocument_iff {f : Fault} (hf : f.Raised) (now : Int) (path : Text) :
    (faultDocument f now path).Texts Encodable ↔ f.Sendable ∧ Encodable path := by
  have htime := Outcome.encodable_documentTime now
  have hcode := FaultKind.encodable_code f.kind
  rw [faultDocument, Fault.Sendable]
  simp only [Json.Value.Texts, Json.Value.MemberTexts, hf.encodable_message, htime, hcode,
    encodable_ofString, true_and, and_true]

/-! ## Replies -/

/-- The reply is a document that reads back with what there is to say about a fault. -/
def Reply.Tells (reply : Reply) (f : Fault) : Prop :=
  ∃ response v d, reply = .sent response ∧ response.status = f.kind.status ∧
    Payload.parse (decode (encode response.body)) = .ok v ∧
    v.get? "error" = some (.str f.kind.code) ∧ v.get? "message" = some (.str f.message) ∧
    v.get? "details" = some d ∧ Datum.ofJson d = .map f.details

/-- A document that can be sent reads back. -/
theorem parse_faultDocument {f : Fault} (hf : f.Raised) {now : Int} {path : Text}
    (h : Encodable (faultDocument f now path).compact) :
    Payload.parse (decode (encode (faultDocument f now path).compact)) =
      .ok (faultDocument f now path) := by
  rw [decode_encode h]
  exact Payload.parse_eq_ok_iff.mpr
    (Json.render_document Json.separates_compact rfl (strict_faultDocument hf now path))

/-- The document about a fault reads back with what it tells. -/
theorem tells_document {f : Fault} (hf : f.Raised) {now : Int} {path : Text}
    (h : Encodable (faultDocument f now path).compact) :
    Reply.Tells (.sent (.ofBody f.kind.status "application/json"
      (faultDocument f now path).compact)) f :=
  ⟨_, faultDocument f now path, _, rfl, rfl, parse_faultDocument hf h, rfl, rfl, rfl,
    hf.ofJson_details⟩

/-- A fault is told, or there is an internal error for want of an address or for the details. -/
theorem faultReply_cases {f : Fault} (hf : f.Raised) (r : Request) (now : Int) :
    r.Addressed ∧ f.Sendable ∧ (faultReply r f now).Tells f ∨
      ¬ (r.Addressed ∧ f.Sendable) ∧ ∃ failure, faultReply r f now = .failed failure := by
  rw [faultReply]
  rcases r.urlPath_cases with ⟨path, hurl, hquery, hpath⟩ | ⟨u, hurl, hquery⟩
  · rw [hurl]
    dsimp only
    have hsend : Encodable (faultDocument f now path).compact ↔ f.Sendable ∧ Encodable r.path := by
      rw [← hpath, ← texts_faultDocument_iff hf now path]
      exact Json.encodable_render_iff Json.bare_compact 0 _
    cases hu : unencodable? (faultDocument f now path).compact with
    | none =>
        have henc := unencodable?_eq_none_iff.mp hu
        obtain ⟨hf', hp⟩ := hsend.mp henc
        exact .inl ⟨⟨hquery, hp⟩, hf', tells_document hf henc⟩
    | some u =>
        refine .inr ⟨?_, _, rfl⟩
        rintro ⟨haddr, hf'⟩
        rw [unencodable?_eq_none_iff.mpr (hsend.mpr ⟨hf', haddr.path⟩)] at hu
        cases hu
  · rw [hurl]
    refine .inr ⟨?_, _, rfl⟩
    rintro ⟨⟨⟨query, hok⟩, -⟩, -⟩
    rw [hquery] at hok
    cases hok

theorem not_tells_failed (failure : Failure) (f : Fault) : ¬ (Reply.failed failure).Tells f := by
  rintro ⟨response, v, d, h, -⟩
  cases h

/-- A fault is told exactly if the request has an address and the details can be sent. -/
theorem tells_faultReply_iff {f : Fault} (hf : f.Raised) (r : Request) (now : Int) :
    (faultReply r f now).Tells f ↔ r.Addressed ∧ f.Sendable := by
  rcases faultReply_cases hf r now with ⟨haddr, hsend, htells⟩ | ⟨hnot, failure, hfailed⟩
  · exact iff_of_true htells ⟨haddr, hsend⟩
  · rw [hfailed]
    exact iff_of_false (not_tells_failed failure f) hnot

/-- A fault that is not told is an internal error. -/
theorem response_of_not_tells {f : Fault} (hf : f.Raised) {r : Request} {now : Int}
    (h : ¬ (faultReply r f now).Tells f) :
    (faultReply r f now).response = some .internalError := by
  rcases faultReply_cases hf r now with ⟨-, -, htells⟩ | ⟨-, failure, hfailed⟩
  · exact absurd htells h
  · rw [hfailed]
    rfl

end Web

end JsonTap
