import JsonTap.Proofs.Web.Delivered

/-!
# Values that are logged and sent again

What the log shows of a value is read back as this value, so that a client which sends it again gets
the same answer and leaves the same record (`App.logged_value_reads_back`). Only a value with
surrogates cannot be sent.
-/

namespace JsonTap.Web

open Utf8

/-! ## Payloads that are read -/

/-- A payload that is read is answered with an empty response, and its value is logged. -/
theorem footprint_of_value (cap : Int) {run : List Moment} {c : Connection} {r : Request}
    {target : Text} {ms : List Message} {body : List Octet} {v : Json.Value}
    (hroute : Route.ofPath r.path = .exchange) (ht : r.target = .ok target)
    (hscript : script c run = .request r :: ms.map .message) (hbody : Delivers ms body)
    (hfits : Fits cap body) (hparse : Json.parse (decode body) = .ok v) :
    ((App.create cap).footprint c run).replies = [.sent .noContent] ∧
      ((App.create cap).footprint c run).records = [lineRecord r.method target,
        boundRecord r.method target Log.Level.info "end",
        boundRecord r.method target Log.Level.info v.indented] := by
  obtain ⟨now, o, hcomes, hfoot⟩ := footprint_delivered cap hroute ht hscript hbody
  rw [hfoot]
  cases hcomes with
  | ok _ hok =>
      cases Except.ok.inj (hok.symm.trans hparse)
      exact ⟨rfl, rfl⟩
  | malformed _ herror =>
      rw [hparse] at herror
      cases herror
  | tooLarge hnot => exact absurd hfits hnot

/-- A payload that is no strict JSON is logged with what is wrong with it. -/
theorem records_of_refusal (cap : Int) {run : List Moment} {c : Connection} {r : Request}
    {target : Text} {ms : List Message} {body : List Octet} {refusal : Json.Refusal}
    (hroute : Route.ofPath r.path = .exchange) (ht : r.target = .ok target)
    (hscript : script c run = .request r :: ms.map .message) (hbody : Delivers ms body)
    (hfits : Fits cap body) (hparse : Json.parse (decode body) = .error refusal) :
    ((App.create cap).footprint c run).records = [lineRecord r.method target,
      boundRecord r.method target Log.Level.info "end",
      boundRecord r.method target Log.Level.warning
        (Outcome.malformedMessage r.method target (.malformedBody refusal))] := by
  obtain ⟨now, o, hcomes, hfoot⟩ := footprint_delivered cap hroute ht hscript hbody
  rw [hfoot]
  cases hcomes with
  | ok _ hok =>
      rw [hparse] at hok
      cases hok
  | malformed _ herror =>
      cases Except.error.inj (herror.symm.trans hparse)
      rfl
  | tooLarge hnot => exact absurd hfits hnot

/-- Only a payload that was read is answered with the status for it. -/
theorem Outcome.ok_of_noContent {o : Outcome} {r : Request} {now : Int}
    (h : (o.reply r now).response.map (·.status) = some 204) : ∃ size v, o = .ok size v := by
  have hrefused : ∀ f, (faultReply r f now).response.map (·.status) ≠ some 204 := by
    intro f hf
    obtain ⟨reply, hreply, hne⟩ := refused_faultReply r f now
    cases hreply
    obtain ⟨response, hresponse, hstatus⟩ := Option.map_eq_some_iff.mp hf
    exact hne response hresponse hstatus
  cases o with
  | ok size v => exact ⟨size, v, rfl⟩
  | malformed size f => exact absurd h (hrefused f)
  | tooLarge f => exact absurd h (hrefused f)
  | disconnected => cases h

/-- A request that is told that its payload was read has its value in the log. -/
theorem records_of_noContent (cap : Int) {run : List Moment} {c : Connection} {r : Request}
    {ms : List Message} (hscript : script c run = .request r :: ms.map .message) {reply : Reply}
    (hreply : reply ∈ ((App.create cap).footprint c run).replies)
    (h204 : reply.response.map (·.status) = some 204) :
    ∃ target v, r.target = .ok target ∧ Payload.parse (decode (payload ms)) = .ok v ∧
      ((App.create cap).footprint c run).records = [lineRecord r.method target,
        boundRecord r.method target Log.Level.info "end",
        boundRecord r.method target Log.Level.info v.indented] := by
  by_cases hbegins : r.Begins
  · obtain ⟨hroute, target, ht⟩ := hbegins
    cases hread : Gathering.empty.readAll cap ms with
    | inl g =>
        rw [footprint_of_wait cap hroute ht hscript hread] at hreply
        cases hreply
    | inr b =>
        obtain ⟨now, hfoot⟩ := footprint_of_end cap hroute ht hscript hread
        rw [hfoot] at hreply ⊢
        obtain rfl := List.mem_singleton.mp hreply
        have habout := conclude_about hread
        obtain ⟨size, v, ho⟩ := Outcome.ok_of_noContent h204
        rw [ho] at habout ⊢
        exact ⟨target, v, ht, habout.2, rfl⟩
  · obtain ⟨refusal, ⟨_, hrefusal, hne⟩, hfoot⟩ := footprint_without_exchange cap hbegins hscript
    cases hrefusal
    rw [hfoot] at hreply
    obtain rfl := List.mem_singleton.mp hreply
    obtain ⟨response, hresponse, hstatus⟩ := Option.map_eq_some_iff.mp h204
    exact absurd hstatus (hne response hresponse)

/-! ## Sending them again -/

/-- For every request that is told that its payload was read, the value in the log reads back as the
payload. If the value has no surrogates, then every request that reaches the handler with what the
log shows, in whatever chunks and under no cap or one that is not below its length, is told the
same, and leaves the same record of the value. -/
theorem App.logged_value_reads_back (cap : Int) (run : List Moment) (c : Connection) (r : Request)
    (ms : List Message) (reply : Reply) (hscript : script c run = .request r :: ms.map .message)
    (hreply : reply ∈ ((create cap).footprint c run).replies)
    (h204 : reply.response.map (·.status) = some 204) :
    ∃ target v m, r.target = .ok target ∧ Payload.parse (decode (payload ms)) = .ok v ∧
      ((create cap).footprint c run).records = [lineRecord r.method target,
        boundRecord r.method target Log.Level.info "end",
        boundRecord r.method target Log.Level.info m] ∧
      Payload.parse m = .ok v ∧
      (v.Texts Encodable → ∀ cap' run' c' (r' : Request) ms', r'.ReachesHandler →
        script c' run' = .request r' :: ms'.map .message → Delivers ms' (encode m) →
        (cap' = 0 ∨ ((encode m).length : Int) ≤ cap') →
        ∃ target', r'.target = .ok target' ∧
          ((create cap').footprint c' run').replies = [.sent .noContent] ∧
          ((create cap').footprint c' run').records = [lineRecord r'.method target',
            boundRecord r'.method target' Log.Level.info "end",
            boundRecord r'.method target' Log.Level.info m]) := by
  obtain ⟨target, v, ht, hparse, hrecords⟩ := records_of_noContent cap hscript hreply h204
  have hstrict : v.Strict := (Payload.parse_eq_ok_iff.mp hparse).strict
  have hread : Payload.parse v.indented = .ok v := Payload.parse_indented hstrict
  refine ⟨target, v, v.indented, ht, hparse, hrecords, hread, ?_⟩
  intro htexts cap' run' c' r' ms' hreach hscript' hbody hcap
  -- the message is sent again, in whatever chunks
  obtain ⟨target', ht'⟩ := hreach.target
  have hdecode : decode (encode v.indented) = v.indented :=
    decode_encode ((Json.encodable_render_iff Json.bare_indented 0 v).mpr htexts)
  have hjson : Json.parse (decode (encode v.indented)) = .ok v := by
    rw [hdecode]
    exact Payload.parse_eq_ok_iff_json.mp hread
  exact ⟨target', ht', footprint_of_value cap' hreach.route ht' hscript' hbody (fits_of_le hcap)
    hjson⟩

/-- A list with a number and a letter that is not ASCII. -/
def sampleList : Json.Value := .arr [.int 12, .str (Text.ofString "é")]

/-- The list is sent, and what the log shows of it is sent after that. -/
theorem App.logged_value_reads_back_list :
    ∃ v m, Payload.parse m = .ok v ∧ v.Texts Encodable ∧
      ((create 0).footprint 1 [⟨0, 1, .request letterRequest⟩,
        ⟨1, 1, .message (.chunk (encode sampleList.compact) false)⟩]).replies =
          [.sent .noContent] ∧
      ((create 0).footprint 2 [⟨2, 2, .request letterRequest⟩,
        ⟨3, 2, .message (.chunk (encode m) false)⟩]).replies = [.sent .noContent] := by
  have htexts : sampleList.Texts Encodable := ⟨trivial, encodable_ofString _, trivial⟩
  have hdecode : decode (encode sampleList.compact) = sampleList.compact :=
    decode_encode ((Json.encodable_render_iff Json.bare_compact 0 _).mpr htexts)
  have hjson : Json.parse (decode (encode sampleList.compact)) = .ok sampleList := by
    rw [hdecode]
    exact Json.parse_iff_document.mpr
      (Json.render_document Json.separates_compact rfl ⟨trivial, trivial, trivial⟩)
  have hreach : letterRequest.ReachesHandler := ⟨rfl, by decide, _, _, rfl⟩
  obtain ⟨target, ht⟩ := hreach.target
  have hfirst : ((create 0).footprint 1 [⟨0, 1, .request letterRequest⟩,
      ⟨1, 1, .message (.chunk (encode sampleList.compact) false)⟩]).replies = [.sent .noContent] :=
    (footprint_of_value 0 hreach.route ht rfl (.last _ []) (fits_of_le (.inl rfl)) hjson).1
  obtain ⟨_, v, m, -, hparse, -, hread, hagain⟩ := logged_value_reads_back 0 _ 1 letterRequest
    [.chunk (encode sampleList.compact) false] (.sent .noContent) rfl
    (by rw [hfirst]; exact List.mem_singleton.mpr rfl) rfl
  have hv : v = sampleList :=
    Except.ok.inj ((Payload.parse_eq_ok_iff_json.mp hparse).symm.trans hjson)
  have hvtexts : v.Texts Encodable := hv ▸ htexts
  obtain ⟨_, -, hsecond, -⟩ := hagain hvtexts 0
    [⟨2, 2, .request letterRequest⟩, ⟨3, 2, .message (.chunk (encode m) false)⟩] 2 letterRequest
    [.chunk (encode m) false] hreach rfl (.last _ []) (.inl rfl)
  exact ⟨v, m, hread, hvtexts, hfirst, hsecond⟩

end JsonTap.Web
