import JsonTap.Proofs.Web.Rejection

/-!
# Which requests are handled alike

Whatever the method of a request, its body alone decides how it is answered (`answerStatus`), as
long as its path leads to an exchange and its address can be written. These are all requests that
are handled alike (`App.handled_alike_iff`): a path that is not one line gets no exchange, and
without an address a malformed body is answered with an internal error.
-/

namespace JsonTap.Web

open Utf8

/-- The status that a body is answered with under a cap. -/
def answerStatus (cap : Int) (body : List Octet) : Nat :=
  if Fits cap body then
    match Json.parse (decode body) with
    | .ok _ => 204
    | .error (.duplicateKey key) => if Encodable key then 400 else 500
    | .error _ => 400
  else 413

/-- The request is logged once, by a record that is bound to nothing, and everything else that is
logged is bound to it. It is answered as its body says. -/
structure Handled (cap : Int) (r : Request) (body : List Octet) (f : Footprint) : Prop where
  logged : ∃ target rest, r.target = .ok target ∧ f.records = lineRecord r.method target :: rest ∧
    ∀ record ∈ rest, ∃ level message, record = boundRecord r.method target level message
  answered : f.replies.map (fun reply => reply.response.map (·.status)) =
    [some (answerStatus cap body)]

/-! ## Requests that are handled alike -/

/-- A reply that tells a fault has its status. -/
theorem Reply.Tells.status {reply : Reply} {f : Fault} (h : reply.Tells f) :
    reply.response.map (·.status) = some f.kind.status := by
  obtain ⟨response, v, d, rfl, hstatus, -⟩ := h
  exact congrArg some hstatus

/-- A body that holds a value is answered with 204. -/
theorem answerStatus_of_value {cap : Int} {body : List Octet} {v : Json.Value}
    (hfits : Fits cap body) (hparse : Json.parse (decode body) = .ok v) :
    answerStatus cap body = 204 := by
  rw [answerStatus, if_pos hfits, hparse]

/-- A body that is rejected, and can be told about, is answered with 400 if it fits, else with
413. -/
theorem answerStatus_of_rejected {cap : Int} {body : List Octet} (h : Rejected cap body)
    (hnot : ¬ RepeatsSurrogates cap body) :
    answerStatus cap body = if Fits cap body then 400 else 413 := by
  rw [answerStatus]
  by_cases hfits : Fits cap body
  · rw [if_pos hfits, if_pos hfits]
    obtain ⟨refusal, hparse⟩ := h.refusal hfits
    rw [hparse]
    cases refusal with
    | duplicateKey key =>
        apply if_pos
        by_contra henc
        exact hnot ⟨hfits, key, hparse, henc⟩
    | _ => rfl
  · rw [if_neg hfits, if_neg hfits]

/-- A repeated key with a surrogate is answered with 500. -/
theorem answerStatus_of_surrogates {cap : Int} {body : List Octet}
    (h : RepeatsSurrogates cap body) : answerStatus cap body = 500 := by
  obtain ⟨hfits, key, hparse, henc⟩ := h
  rw [answerStatus, if_pos hfits, hparse]
  exact if_neg henc

/-- An exchange of a request with an address is answered as its body says. -/
theorem Comes.status {cap : Int} {body : List Octet} {o : Outcome} (h : Comes cap body o)
    {r : Request} (haddr : r.Addressed) (now : Int) :
    (o.reply r now).response.map (·.status) = some (answerStatus cap body) := by
  by_cases hrejected : Rejected cap body
  · obtain ⟨f, -, hraised, hstatus, hreply, hsend⟩ := h.rejected hrejected
    have htells := tells_faultReply_iff hraised r now
    rw [hreply]
    by_cases hrepeats : RepeatsSurrogates cap body
    · have hnot : ¬ (faultReply r f now).Tells f :=
        fun ht => hsend.mp (htells.mp ht).2 hrepeats
      rw [response_of_not_tells hraised hnot, answerStatus_of_surrogates hrepeats]
      rfl
    · rw [(htells.mpr ⟨haddr, hsend.mpr hrepeats⟩).status, hstatus,
        answerStatus_of_rejected hrejected hrepeats]
  · cases h with
    | ok hfits hparse =>
        rw [answerStatus_of_value hfits hparse]
        rfl
    | malformed hfits hparse => exact absurd (rejected_of_refusal hparse) hrejected
    | tooLarge hnot => exact absurd (.inl hnot) hrejected

/-- What is said at the end of an exchange is bound to its request. -/
theorem bound_records {o : Outcome} {r : Request} {target : Text} :
    ∀ record ∈ o.records (.awaiting r target),
      ∃ level message, record = boundRecord r.method target level message := by
  intro record hrecord
  cases o <;> simp only [Outcome.records, say_awaiting, List.mem_cons, List.not_mem_nil,
    or_false] at hrecord
  · rcases hrecord with rfl | rfl <;> exact ⟨_, _, rfl⟩
  · rcases hrecord with rfl | rfl <;> exact ⟨_, _, rfl⟩
  · exact ⟨_, _, hrecord⟩
  · exact ⟨_, _, hrecord⟩

/-- A request that has an address is handled as its body asks for. -/
theorem handled_of_addressed (cap : Int) {run : List Moment} {c : Connection} {r : Request}
    {ms : List Message} {body : List Octet} (hline : OneLine r.path) (haddr : r.Addressed)
    (hbody : Delivers ms body) (hscript : script c run = .request r :: ms.map .message) :
    Handled cap r body ((App.create cap).footprint c run) := by
  obtain ⟨query, hquery⟩ := haddr.query
  obtain ⟨target, ht⟩ := Request.target_of_query hquery
  obtain ⟨now, o, hcomes, hfoot⟩ :=
    footprint_delivered cap (ofPath_eq_exchange_iff.mpr hline) ht hscript hbody
  rw [hfoot]
  refine ⟨⟨target, _, ht, rfl, bound_records⟩, ?_⟩
  rw [List.map_singleton, hcomes.status haddr]

/-! ## Requests that are not -/

theorem parse_empty : ∃ place, Json.parse (decode []) = .error (.malformed .expectingValue place) :=
  ⟨_, Json.parse_of_stop (s := decode []) Json.bare_value_nil⟩

/-- An empty body is malformed, and without an address this cannot be told. -/
theorem addressed_of_handled {now : Int} {o : Outcome} {r : Request} (h : Comes 0 [] o)
    (hstatus : (o.reply r now).response.map (·.status) = some (answerStatus 0 [])) :
    r.Addressed := by
  obtain ⟨place, hparse⟩ := parse_empty
  have hrejected : Rejected 0 [] := rejected_of_refusal hparse
  have hnot : ¬ RepeatsSurrogates 0 [] := by
    rintro ⟨-, key, hkey, -⟩
    rw [hparse] at hkey
    cases hkey
  obtain ⟨f, -, hraised, -, hreply, -⟩ := h.rejected hrejected
  rw [hreply, answerStatus_of_rejected hrejected hnot] at hstatus
  by_contra haddr
  have htells : ¬ (faultReply r f now).Tells f :=
    fun ht => haddr ((tells_faultReply_iff hraised r now).mp ht).1
  -- what is answered would be the internal error
  rw [response_of_not_tells hraised htells] at hstatus
  cases hstatus

/-- The requests that are handled alike, whatever their method and whatever body they bring in
whatever chunks, are those with a path of one line after a slash and with an address in UTF-8. -/
theorem App.handled_alike_iff (r : Request) :
    (∀ cap run c ms body, Delivers ms body → script c run = .request r :: ms.map .message →
      Handled cap r body ((create cap).footprint c run)) ↔ OneLine r.path ∧ r.Addressed := by
  constructor
  · intro h
    -- an empty body tells all of them apart from the others
    have hbody : Delivers [.chunk [] false] [] := .last [] []
    have hscript : script 0 [⟨0, 0, .request r⟩, ⟨0, 0, .message (.chunk [] false)⟩] =
        .request r :: [Message.chunk [] false].map .message := rfl
    obtain ⟨⟨target, rest, -, hrecords, -⟩, hanswered⟩ := h 0 _ 0 _ _ hbody hscript
    have hbegins : r.Begins := by
      by_contra hnot
      obtain ⟨reply, -, hfoot⟩ := footprint_without_exchange 0 hnot hscript
      rw [hfoot] at hrecords
      cases hrecords
    obtain ⟨hroute, target, ht⟩ := hbegins
    obtain ⟨now, o, hcomes, hfoot⟩ := footprint_delivered 0 hroute ht hscript hbody
    rw [hfoot] at hanswered
    exact ⟨ofPath_eq_exchange_iff.mp hroute,
      addressed_of_handled hcomes (List.singleton_inj.mp hanswered)⟩
  · rintro ⟨hline, haddr⟩ cap run c ms body hbody hscript
    exact handled_of_addressed cap hline haddr hbody hscript

/-- A line feed inside a path is enough to find nothing there, and to leave no record. -/
theorem App.line_feed_in_path_is_not_found :
    (create 0).footprint 7 [⟨0, 7, .request ⟨"GET", "/a\nb", some (encode "/a%0Ab"), [],
        "localhost"⟩⟩, ⟨1, 7, .message (.chunk (encode "1") false)⟩] =
      ⟨[], [.sent .notFound], []⟩ ∧ Response.notFound.status = 404 := by
  exact ⟨rfl, rfl⟩

end JsonTap.Web
