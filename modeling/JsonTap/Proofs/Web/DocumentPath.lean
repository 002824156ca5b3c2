import JsonTap.Proofs.Web.Handling

/-!
# The path in the document about a fault

The path of a document is taken from the address of the request. A request without an address gets
no document. An address escapes what would end its path and drops blanks that end a line, so that
the document shows the path of the request only if it has none of these
(`App.document_path_iff`). The host that the request names does not matter.
-/

namespace JsonTap.Web

open Utf8

/-! ## Paths of addresses -/

def KeptInAddress (c : CodePoint) : Prop :=
  c ≠ '?' ∧ c ≠ '#' ∧ c ≠ '\\' ∧ c ≠ '\t' ∧ c ≠ '\r' ∧ c ≠ '\n'

instance (c : CodePoint) : Decidable (KeptInAddress c) := inferInstanceAs (Decidable (_ ∧ _))

theorem isDropped_eq_false_iff {c : CodePoint} :
    isDropped c = false ↔ c ≠ '\t' ∧ c ≠ '\r' ∧ c ≠ '\n' := by
  simp [isDropped, and_assoc]

/-- What is kept in an address is not escaped. -/
theorem KeptInAddress.addressCodePoint {c : CodePoint} (h : KeptInAddress c) :
    addressCodePoint c = [c] := by
  rw [Web.addressCodePoint, if_neg h.1, if_neg h.2.1, if_neg h.2.2.1]

/-- What an address makes of a code point has nothing that it would escape. -/
theorem not_escaped_of_mem {c x : CodePoint} (h : x ∈ addressCodePoint c) :
    x ≠ '?' ∧ x ≠ '#' ∧ x ≠ '\\' := by
  have escape : ∀ t : Text, x ∈ t →
      t.all (fun y => y ≠ '?' ∧ y ≠ '#' ∧ y ≠ '\\') = true → x ≠ '?' ∧ x ≠ '#' ∧ x ≠ '\\' :=
    fun t hx hall => of_decide_eq_true (List.all_eq_true.mp hall x hx)
  rw [addressCodePoint] at h
  split at h
  · exact escape _ h (by decide)
  · next hquestion =>
      split at h
      · exact escape _ h (by decide)
      · next hhash =>
          split at h
          · exact escape _ h (by decide)
          · next hback =>
              rw [List.mem_singleton.mp h]
              exact ⟨hquestion, hhash, hback⟩

/-- A path that begins with a slash is escaped code point by code point. -/
theorem addressPath_of_slash {path : Text} (h : path.head? = some ('/' : CodePoint)) :
    addressPath path = path.flatMap addressCodePoint := by
  obtain ⟨rest, rfl⟩ := List.head?_eq_some_iff.mp h
  rw [addressPath, if_pos rfl]

/-- A path with a slash in front stays as it is if an address keeps all of it. -/
theorem addressPath_eq_self_iff {path : Text} (h : path.head? = some ('/' : CodePoint)) :
    (addressPath path).filter (!isDropped ·) = path ↔ ∀ c ∈ path, KeptInAddress c := by
  rw [addressPath_of_slash h]
  constructor
  · intro heq c hc
    rw [← heq, List.mem_filter, List.mem_flatMap] at hc
    obtain ⟨⟨x, -, hx⟩, hdrop⟩ := hc
    obtain ⟨hquestion, hhash, hback⟩ := not_escaped_of_mem hx
    exact ⟨hquestion, hhash, hback, isDropped_eq_false_iff.mp ((Bool.not_eq_true' _).mp hdrop)⟩
  · intro hkept
    have hsame : path.flatMap addressCodePoint = path := by
      rw [List.flatMap_congr fun c hc => (hkept c hc).addressCodePoint]
      exact List.flatMap_singleton' path
    rw [hsame, List.filter_eq_self]
    intro c hc
    obtain ⟨-, -, -, hblank⟩ := hkept c hc
    rw [isDropped_eq_false_iff.mpr hblank]
    rfl

/-! ## Documents -/

/-- The reply is a document with a status, and a path in it. -/
def Reply.ShowsPath (reply : Reply) (status : Nat) (path : Text) : Prop :=
  ∃ response v, reply = .sent response ∧ response.status = status ∧
    Payload.parse (decode (encode response.body)) = .ok v ∧ v.get? "path" = some (.str path)

/-- A fault is told with the path of the address, if there is an address. -/
theorem faultReply_of_addressed {f : Fault} (hf : f.Raised) (hsend : f.Sendable) {r : Request}
    (haddr : r.Addressed) (now : Int) :
    ∃ v, faultReply r f now = .sent (.ofBody f.kind.status "application/json" v.compact) ∧
      Payload.parse (decode (encode v.compact)) = .ok v ∧
      v.get? "path" = some (.str ((addressPath r.path).filter (!isDropped ·))) := by
  obtain ⟨query, hquery⟩ := haddr.query
  have hurl : r.urlPath = .ok ((addressPath r.path).filter (!isDropped ·)) := by
    rw [Request.urlPath, hquery]
    rfl
  have henc : Encodable (faultDocument f now
      ((addressPath r.path).filter (!isDropped ·))).compact := by
    refine (Json.encodable_render_iff Json.bare_compact 0 _).mpr ?_
    rw [texts_faultDocument_iff hf, encodable_filter_isDropped_iff, encodable_addressPath_iff]
    exact ⟨hsend, haddr.path⟩
  refine ⟨_, ?_, parse_faultDocument hf henc, rfl⟩
  rw [faultReply, hurl]
  dsimp only
  rw [unencodable?_eq_none_iff.mpr henc]

/-- A reply shows the path of the request exactly if the document is sent and the path has nothing
to escape. -/
theorem showsPath_faultReply_iff {f : Fault} (hf : f.Raised) (hsend : f.Sendable) {r : Request}
    (hslash : r.path.head? = some ('/' : CodePoint)) (now : Int) :
    (faultReply r f now).ShowsPath f.kind.status r.path ↔
      r.Addressed ∧ ∀ c ∈ r.path, KeptInAddress c := by
  rw [← addressPath_eq_self_iff hslash]
  constructor
  · rintro ⟨response, v, hsent, -, hparse, hpath⟩
    have haddr : r.Addressed := by
      by_contra hnot
      rcases faultReply_cases hf r now with ⟨haddr, -, -⟩ | ⟨-, failure, hfailed⟩
      · exact hnot haddr
      · rw [hfailed] at hsent
        cases hsent
    -- the body is read back as one value only, so that its path is that of the address
    obtain ⟨v', hsent', hparse', hpath'⟩ := faultReply_of_addressed hf hsend haddr now
    rw [hsent'] at hsent
    cases hsent
    obtain rfl := Except.ok.inj (hparse'.symm.trans hparse)
    rw [hpath'] at hpath
    exact ⟨haddr, Json.Value.str.inj (Option.some.inj hpath)⟩
  · rintro ⟨haddr, hkept⟩
    obtain ⟨v, hsent, hparse, hpath⟩ := faultReply_of_addressed hf hsend haddr now
    rw [hkept] at hpath
    exact ⟨_, v, hsent, rfl, hparse, hpath⟩

/-! ## Rejected bodies -/

/-- The body is above the cap, or its syntax is not that of JSON. -/
def PlainlyRejected (cap : Int) (body : List Octet) : Prop :=
  ¬ Fits cap body ∨ ∃ fault place, Json.parse (decode body) = .error (.malformed fault place)

/-- A body that is plainly rejected is rejected. -/
theorem PlainlyRejected.rejected {cap : Int} {body : List Octet} (h : PlainlyRejected cap body) :
    Rejected cap body := by
  refine h.imp_right ?_
  rintro ⟨fault, place, hparse⟩
  exact ⟨_, by rw [Payload.parse, hparse]⟩

/-- No key with a surrogate repeats in a body that is plainly rejected. -/
theorem PlainlyRejected.not_repeatsSurrogates {cap : Int} {body : List Octet}
    (h : PlainlyRejected cap body) : ¬ RepeatsSurrogates cap body := by
  rintro ⟨hfits, key, hkey, -⟩
  rcases h with hnot | ⟨fault, place, hparse⟩
  · exact hnot hfits
  · rw [hparse] at hkey
    cases hkey

/-- Such a body is answered for a fault that can be told. -/
theorem replies_of_plainlyRejected (cap : Int) (run : List Moment) (c : Connection) {r : Request}
    {ms : List Message} {body : List Octet} (hreach : r.ReachesHandler) (hbody : Delivers ms body)
    (hscript : script c run = .request r :: ms.map .message) (h : PlainlyRejected cap body) :
    ∃ f now, f.Raised ∧ f.Sendable ∧ f.kind.status = (if Fits cap body then 400 else 413) ∧
      ((App.create cap).footprint c run).replies = [faultReply r f now] := by
  obtain ⟨target, ht⟩ := hreach.target
  obtain ⟨now, o, hcomes, hfoot⟩ := footprint_delivered cap hreach.route ht hscript hbody
  obtain ⟨f, -, hraised, hstatus, hreply, hsend⟩ := hcomes.rejected h.rejected
  refine ⟨f, now, hraised, hsend.mpr h.not_repeatsSurrogates, hstatus, ?_⟩
  rw [hfoot, hreply]

/-- A request that reaches the handler with a body that is rejected for its size or its syntax gets
one reply, whatever host it names. The reply has the status 413 or 400 exactly if the request has an
address, and is an internal error otherwise. It shows the path of the request exactly if besides
that an address keeps the path. -/
theorem App.document_path_iff (cap : Int) (run : List Moment) (c : Connection) (r : Request)
    (ms : List Message) (body : List Octet) (hreach : r.ReachesHandler) (hbody : Delivers ms body)
    (hscript : script c run = .request r :: ms.map .message) (h : PlainlyRejected cap body) :
    ∃ reply, ((create cap).footprint c run).replies = [reply] ∧
      (reply.response.map (·.status) = some (if Fits cap body then 400 else 413) ↔ r.Addressed) ∧
      (¬ r.Addressed → reply.response = some .internalError) ∧
      (reply.ShowsPath (if Fits cap body then 400 else 413) r.path ↔
        r.Addressed ∧ ∀ c ∈ r.path, KeptInAddress c) := by
  obtain ⟨f, now, hraised, hsend, hstatus, hreplies⟩ :=
    replies_of_plainlyRejected cap run c hreach hbody hscript h
  have htells := tells_faultReply_iff hraised r now
  have hfailed : ¬ r.Addressed → (faultReply r f now).response = some .internalError := by
    intro hnot
    refine response_of_not_tells hraised fun ht => ?_
    exact hnot (htells.mp ht).1
  refine ⟨_, hreplies, ?_, hfailed, ?_⟩
  · constructor
    · intro hkept
      by_contra hnot
      rw [hfailed hnot] at hkept
      have h500 : 500 = if Fits cap body then 400 else 413 := Option.some.inj hkept
      split at h500 <;> cases h500
    · intro haddr
      rw [← hstatus]
      exact (htells.mpr ⟨haddr, hsend⟩).status
  · rw [← hstatus]
    exact showsPath_faultReply_iff hraised hsend hreach.slash now

theorem delivers_nothing : Delivers [.chunk [] false] [] := .last [] []

/-- No JSON is in an empty body. -/
theorem plainlyRejected_nothing : PlainlyRejected 0 [] := .inr ⟨_, parse_empty⟩

/-- A request with a host of its own and an empty body is told what its path was. -/
theorem App.document_path_iff_empty_body :
    localRequest.ReachesHandler ∧ PlainlyRejected 0 [] ∧
      ∃ reply, ((create 0).footprint 7 [⟨0, 7, .request localRequest⟩,
        ⟨1, 7, .message (.chunk [] false)⟩]).replies = [reply] ∧ reply.ShowsPath 400 "/a" := by
  refine ⟨reachesHandler_localRequest, plainlyRejected_nothing, ?_⟩
  obtain ⟨reply, hreplies, -, -, hpath⟩ := document_path_iff 0
    [⟨0, 7, .request localRequest⟩, ⟨1, 7, .message (.chunk [] false)⟩] 7 localRequest _ _
    reachesHandler_localRequest delivers_nothing rfl plainlyRejected_nothing
  refine ⟨reply, hreplies, hpath.mpr ⟨addressed_localRequest, ?_⟩⟩
  exact List.forall_mem_cons.mpr ⟨by decide, List.forall_mem_singleton.mpr (by decide)⟩

def octetQueryRequest : Request := { localRequest with query := [Utf8.octet 0xFF] }

def markInPathRequest : Request :=
  { localRequest with path := "/a?b", rawPath := some (encode "/a%3Fb") }

/-- With a query that is no text, the reply to an empty body is an internal error. With a question
mark in the path, the document shows another path. -/
theorem App.document_path_is_lost :
    PlainlyRejected 0 [] ∧ octetQueryRequest.ReachesHandler ∧
      ((create 0).footprint 7 [⟨0, 7, .request octetQueryRequest⟩,
        ⟨1, 7, .message (.chunk [] false)⟩]).replies.map (·.response) = [some .internalError] ∧
      Response.internalError.status = 500 ∧
      markInPathRequest.ReachesHandler ∧
      ∃ reply, ((create 0).footprint 7 [⟨0, 7, .request markInPathRequest⟩,
        ⟨1, 7, .message (.chunk [] false)⟩]).replies = [reply] ∧
        reply.ShowsPath 400 "/a%3Fb" ∧ ¬ reply.ShowsPath 400 "/a?b" := by
  have hquery : octetQueryRequest.ReachesHandler := ⟨rfl, by decide, _, _, rfl⟩
  have hmark : markInPathRequest.ReachesHandler := ⟨rfl, by decide, _, _, rfl⟩
  refine ⟨plainlyRejected_nothing, hquery, ?_, rfl, hmark, ?_⟩
  · have hnot : ¬ octetQueryRequest.Addressed := by
      rintro ⟨⟨query, hok⟩, -⟩
      cases hok
    obtain ⟨f, now, hraised, -, -, hreplies⟩ := replies_of_plainlyRejected 0
      [⟨0, 7, .request octetQueryRequest⟩, ⟨1, 7, .message (.chunk [] false)⟩] 7 hquery
      delivers_nothing rfl plainlyRejected_nothing
    rw [hreplies, List.map_singleton, response_of_not_tells hraised]
    exact fun ht => hnot ((tells_faultReply_iff hraised _ now).mp ht).1
  · have haddr : markInPathRequest.Addressed := ⟨⟨[], rfl⟩, encodable_ofString "/a?b"⟩
    obtain ⟨f, now, hraised, hsend, hstatus, hreplies⟩ := replies_of_plainlyRejected 0
      [⟨0, 7, .request markInPathRequest⟩, ⟨1, 7, .message (.chunk [] false)⟩] 7 hmark
      delivers_nothing rfl plainlyRejected_nothing
    obtain ⟨v, hsent, hparse, hpath⟩ := faultReply_of_addressed hraised hsend haddr now
    have h400 : f.kind.status = 400 := hstatus
    refine ⟨_, hreplies, ⟨_, v, hsent, h400, hparse, hpath⟩, ?_⟩
    rw [← h400]
    intro hshows
    have hkept := ((showsPath_faultReply_iff hraised hsend hmark.slash now).mp hshows).2
    exact absurd (hkept '?' (by decide)) (by decide)

end JsonTap.Web
