import JsonTap.Proofs.Encoding.Decoded
import JsonTap.Proofs.Json.Refusals
import JsonTap.Proofs.Log.Line
import JsonTap.Proofs.Log.Written
import JsonTap.Proofs.Web.Counts
import JsonTap.Proofs.Web.ReadBack

/-!
# Lines of a run

What a handler in JSON writes in a run is one line for each record that it lets through, and each
line reads back (`App.each_record_on_its_line`). The first line of a request is bound to nothing,
and all others are bound to the method and the target of this request and of no other, whatever
happens on other connections in between: the records of a connection are those of its footprint
(`App.log_filter`), which `records_said` puts in one form.

A line is lost only if a record cannot be written, so the texts that requests bring into it must be
such that they can: the method by assumption, the target because each of its code points is an
octet, the value because it was decoded (`Json.Grammar.Document.unpaired`).
-/

namespace JsonTap.Web

open Utf8

/-! ## The log of a run -/

/-- The records of a run, each with the connection whose event was handled. -/
def App.log (a : App) : List Moment → List (Connection × Log.Record)
  | [] => []
  | m :: ms =>
    ((a.step m.now m.connection m.event).2.records.map (m.connection, ·)) ++ (a.next m).log ms

/-- A record belongs to a connection that sent something. -/
theorem App.connection_of_log {a : App} {run : List Moment} {x : Connection × Log.Record}
    (hx : x ∈ a.log run) : ∃ m ∈ run, m.connection = x.1 := by
  induction run generalizing a with
  | nil => cases hx
  | cons m ms ih =>
      rcases List.mem_append.mp hx with hnow | hlater
      · obtain ⟨r, -, rfl⟩ := List.mem_map.mp hnow
        exact ⟨m, List.mem_cons_self, rfl⟩
      · obtain ⟨n, hn, hc⟩ := ih hlater
        exact ⟨n, List.mem_cons_of_mem m hn, hc⟩

/-- The records of a connection are those of its footprint, in the same order. -/
theorem App.log_filter (a : App) (c : Connection) (run : List Moment) :
    ((a.log run).filter (·.1 = c)).map (·.2) = (a.footprint c run).records := by
  induction run generalizing a with
  | nil => rfl
  | cons m ms ih =>
      show ((_ ++ (a.next m).log ms).filter (·.1 = c)).map (·.2) =
        (a.stepFootprint c m).records ++ ((a.next m).footprint c ms).records
      rw [List.filter_append, List.map_append, ih, List.filter_map, List.map_map]
      congr 1
      by_cases hc : m.connection = c
      · simp [stepFootprint, hc, Function.comp_def]
      · simp [stepFootprint, hc, Function.comp_def]

/-! ## What requests bring into the log -/

/-- Octets that are shown as code points can be written. -/
theorem encodable_latin1 (bs : List Octet) : Encodable (Text.latin1 bs) := by
  intro c hc
  obtain ⟨b, -, rfl⟩ := List.mem_map.mp hc
  apply not_isSurrogate_of_val
  left
  show b.val < 0xD800
  omega

/-- The target of a request that reaches the handler can be written. -/
theorem Request.ReachesHandler.encodable_target {r : Request} {target : Text}
    (h : r.ReachesHandler) (ht : r.target = .ok target) : Encodable target := by
  obtain ⟨b, bs, hraw⟩ := h.raw
  unfold Request.target Request.targetPath at ht
  rw [hraw] at ht
  cases ht
  split
  · exact encodable_latin1 _
  · exact encodable_append.mpr ⟨encodable_latin1 _,
      encodable_cons.mpr ⟨isSurrogate_ofChar _, encodable_latin1 _⟩⟩

theorem encodable_requestLine {method target : Text} (hm : Encodable method)
    (ht : Encodable target) : Encodable (Exchange.requestLine method target) :=
  encodable_append.mpr ⟨encodable_append.mpr ⟨hm, encodable_ofString _⟩, ht⟩

/-- What is said about a malformed body can be written. -/
theorem encodable_parseFault {t : Text} {fault : Fault} (h : Payload.parse t = .error fault) :
    Encodable fault.message := by
  unfold Payload.parse at h
  split at h
  · cases h
  · next refusal _ =>
      cases h
      exact refusal.encodable_message

/-- The value of a decoded text is shown without surrogate pairs. -/
theorem unpaired_indented_of_decoded {bs : List Octet} {v : Json.Value}
    (h : Payload.parse (decode bs) = .ok v) : Unpaired v.indented := by
  have hdocument := Payload.parse_eq_ok_iff.mp h
  exact Json.Value.unpaired_indented (hdocument.unpaired (encodable_decode bs))

/-- The records of a request are its request line and records that are bound to it. -/
theorem records_said (cap : Int) {run : List Moment} {c : Connection} {r : Request}
    {target : Text} {ms : List Message} (hreach : r.ReachesHandler) (hmethod : Encodable r.method)
    (ht : r.target = .ok target) (hscript : script c run = .request r :: ms.map .message) :
    ∃ later : List (Log.Level × Text),
      ((App.create cap).footprint c run).records =
        lineRecord r.method target :: later.map (fun x => boundRecord r.method target x.1 x.2) ∧
      ∀ x ∈ later, Unpaired x.2 := by
  have hline := encodable_requestLine hmethod (hreach.encodable_target ht)
  have hend : Unpaired (Text.ofString "end") := unpaired_of_encodable (encodable_ofString _)
  have hshows := condition_shows cap hreach ht hscript
  -- what is logged after the request line, for each condition that the request can be in
  cases hk : Condition.of cap ms with
  | waiting =>
      rw [hk] at hshows
      exact ⟨[], hshows.1, nofun⟩
  | ok =>
      rw [hk] at hshows
      obtain ⟨v, hparse, hrecords, -⟩ := hshows
      refine ⟨[(Log.Level.info, "end"), (Log.Level.info, v.indented)], hrecords, ?_⟩
      exact List.forall_mem_cons.mpr
        ⟨hend, List.forall_mem_singleton.mpr (unpaired_indented_of_decoded hparse)⟩
  | malformed =>
      rw [hk] at hshows
      obtain ⟨fault, hparse, hrecords, -⟩ := hshows
      refine ⟨[(Log.Level.info, "end"),
        (Log.Level.warning, Outcome.malformedMessage r.method target fault)], hrecords, ?_⟩
      refine List.forall_mem_cons.mpr ⟨hend, List.forall_mem_singleton.mpr ?_⟩
      apply unpaired_of_encodable
      exact encodable_append.mpr ⟨encodable_append.mpr
        ⟨encodable_append.mpr ⟨encodable_ofString _, hline⟩, encodable_ofString _⟩,
        encodable_parseFault hparse⟩
  | tooLarge =>
      rw [hk] at hshows
      refine ⟨[(Log.Level.warning, Outcome.tooLargeMessage r.method target)], hshows.1, ?_⟩
      refine List.forall_mem_singleton.mpr (unpaired_of_encodable ?_)
      exact encodable_append.mpr ⟨encodable_ofString _, hline⟩
  | disconnected =>
      rw [hk] at hshows
      refine ⟨[(Log.Level.debug, "Client disconnected before end of body")], hshows.1, ?_⟩
      exact List.forall_mem_singleton.mpr (unpaired_of_encodable (encodable_ofString _))

/-! ## Lines -/

def boundTexts : Option (Text × Text) → List (Text × Text)
  | none => []
  | some (method, target) => [("method", method), ("target", target)]

/-- The line of a record that is bound to a method and a target, or to nothing: there is one, it is
ASCII without a line feed, and it reads back as an object with the record's own level, logger and
message. -/
structure Tells (e : Log.Stamped) (bound : Option (Text × Text)) (v : Json.Value) : Prop where
  written : Log.jsonLine e.time [] e.record = .ok e.line
  ascii : e.line.AsciiLine
  oneLine : ('\n' : CodePoint) ∉ e.line
  reads : Payload.parse e.line = .ok v
  object : ∃ members, v = .obj members
  level : v.get? "level" = some (.str e.record.level.name)
  logger : v.get? "logger" = some (.str e.record.logger)
  message : ∃ message, e.record.message = .ok message ∧ v.get? "message" = some (.str message)
  method : v.get? "method" = bound.map fun b => .str b.1
  target : v.get? "target" = bound.map fun b => .str b.2

/-- What is said with a message and a bound request is written as one line, and reads back. -/
theorem said_tells {created : Double} (htime : Timestamp.InYears created) (level : Log.Level)
    {message : Text} (hmessage : Unpaired message) {bound : Option (Text × Text)}
    (hbound : ∀ b ∈ bound, Encodable b.1 ∧ Encodable b.2) :
    ∃ v, Tells
      ⟨created, Log.said level "payload_listener.web.app" message (boundTexts bound)⟩ bound v := by
  -- otherwise the entries of the record itself would win over what it is bound to
  have hnames : (Log.ownEntryNames ++ (boundTexts bound).map (·.1)).Nodup := by
    cases bound with
    | none => decide +kernel
    | some b =>
        show (Log.ownEntryNames ++ [Text.ofString "method", Text.ofString "target"]).Nodup
        decide +kernel
  have htexts : ∀ b ∈ boundTexts bound, Encodable b.1 ∧ Encodable b.2 := by
    cases bound with
    | none => exact nofun
    | some b =>
        obtain ⟨hmethod, htarget⟩ := hbound b rfl
        exact List.forall_mem_cons.mpr ⟨⟨encodable_ofString _, hmethod⟩,
          List.forall_mem_singleton.mpr ⟨encodable_ofString _, htarget⟩⟩
  obtain ⟨t, time, hline, hascii, hparse⟩ :=
    Log.jsonLine_said htime level (encodable_ofString _) hmessage hnames htexts
  have hstamped : Log.Stamped.line
      ⟨created, Log.said level "payload_listener.web.app" message (boundTexts bound)⟩ = t := by
    unfold Log.Stamped.line
    rw [hline]
  -- the line, that it is one line, what it parses to, and its entries
  refine ⟨.ofTexts (Log.lineTexts time level "payload_listener.web.app" message
    (boundTexts bound)), ?_, ?_, ?_, ?_, ⟨_, rfl⟩, rfl, rfl, ⟨message, rfl, rfl⟩, ?_, ?_⟩
  · rw [hstamped]
    exact hline
  · rw [hstamped]
    exact hascii
  · rw [hstamped]
    exact hascii.no_lineFeed
  · rw [hstamped]
    exact hparse
  · cases bound with
    | none => rfl
    | some b => rfl
  · cases bound with
    | none => rfl
    | some b => rfl

/-- The record about a request line is bound to nothing. -/
theorem tells_lineRecord {created : Double} (htime : Timestamp.InYears created)
    {method target : Text} (hm : Encodable method) (ht : Encodable target) :
    ∃ v, Tells ⟨created, lineRecord method target⟩ none v :=
  @said_tells created htime Log.Level.info _
    (unpaired_of_encodable (encodable_requestLine hm ht)) none (by simp)

/-- Any other record is bound to its request. -/
theorem tells_boundRecord {created : Double} (htime : Timestamp.InYears created)
    {method target : Text} (hm : Encodable method) (ht : Encodable target) (level : Log.Level)
    {message : Text} (hmessage : Unpaired message) :
    ∃ v, Tells ⟨created, boundRecord method target level message⟩ (some (method, target)) v := by
  have hbound : ∀ b ∈ some (method, target), Encodable b.1 ∧ Encodable b.2 := by
    intro b hb
    cases hb
    exact ⟨hm, ht⟩
  exact said_tells htime level hmessage hbound

/-! ## Runs -/

/-- The entries of a connection are the records of its footprint. -/
theorem App.records_of_entries (cap : Int) {run : List Moment} {c : Connection}
    {es : List (Connection × Log.Stamped)}
    (hes : es.map (fun e => (e.1, e.2.record)) = (create cap).log run) :
    (es.filter (·.1 = c)).map (·.2.record) = ((create cap).footprint c run).records := by
  rw [← log_filter, ← hes, List.filter_map, List.map_map]
  rfl

/-- What a connection shows is among the entries of the log. -/
theorem App.entry_of_footprint (cap : Int) {run : List Moment} {c : Connection}
    {es : List (Connection × Log.Stamped)}
    (hes : es.map (fun e => (e.1, e.2.record)) = (create cap).log run) {r : Log.Record}
    (hr : r ∈ ((create cap).footprint c run).records) : ∃ e ∈ es, e.2.record = r := by
  rw [← records_of_entries cap hes] at hr
  obtain ⟨e, he, her⟩ := List.mem_map.mp hr
  exact ⟨e, List.mem_of_mem_filter he, her⟩

/-- What is told of the records of one connection. -/
theorem App.lines_of_connection (cap : Int) {run : List Moment} {c : Connection} {r : Request}
    {ms : List Message} (hreach : r.ReachesHandler) (hmethod : Encodable r.method)
    (hscript : script c run = .request r :: ms.map .message)
    {es : List (Connection × Log.Stamped)}
    (hes : es.map (fun e => (e.1, e.2.record)) = (create cap).log run)
    (htime : ∀ e ∈ es, Timestamp.InYears e.2.time) :
    ∃ target first later, r.target = .ok target ∧ es.filter (·.1 = c) = first :: later ∧
      (∃ v, Tells first.2 none v) ∧ ∀ e ∈ later, ∃ v, Tells e.2 (some (r.method, target)) v := by
  obtain ⟨target, ht⟩ := hreach.target
  have hmine := records_of_entries cap (c := c) hes
  obtain ⟨bound, hrecords, hbound⟩ := records_said cap hreach hmethod ht hscript
  rw [hrecords] at hmine
  -- the entries of the connection, split where their records are
  obtain ⟨first, later, hsplit, hfirst, hlater⟩ := List.map_eq_cons_iff.mp hmine
  have hmem : ∀ e ∈ first :: later, Timestamp.InYears e.2.time := by
    intro e he
    rw [← hsplit] at he
    exact htime e (List.mem_of_mem_filter he)
  have htarget := hreach.encodable_target ht
  refine ⟨target, first, later, ht, hsplit, ?_, ?_⟩
  · obtain ⟨v, hv⟩ := tells_lineRecord (hmem first List.mem_cons_self) hmethod htarget
    rw [← hfirst] at hv
    exact ⟨v, hv⟩
  · intro e he
    have hrecord : e.2.record ∈ later.map (·.2.record) := List.mem_map_of_mem he
    rw [hlater] at hrecord
    obtain ⟨x, hx, hxe⟩ := List.mem_map.mp hrecord
    obtain ⟨v, hv⟩ := tells_boundRecord (hmem e (List.mem_cons_of_mem _ he)) hmethod htarget x.1
      (hbound x hx)
    rw [hxe] at hv
    exact ⟨v, hv⟩

/-- The last record of a request that is told that its payload was read shows the value of the
payload. -/
theorem App.value_of_last (cap : Int) {run : List Moment} {c : Connection} {r : Request}
    {ms : List Message} (hscript : script c run = .request r :: ms.map .message)
    {es : List (Connection × Log.Stamped)}
    (hes : es.map (fun e => (e.1, e.2.record)) = (create cap).log run)
    {first : Connection × Log.Stamped} {later : List (Connection × Log.Stamped)}
    (hsplit : es.filter (·.1 = c) = first :: later) {reply : Reply}
    (hreply : reply ∈ ((create cap).footprint c run).replies)
    (h204 : reply.response.map (·.status) = some 204) :
    ∃ v e m, Payload.parse (decode (payload ms)) = .ok v ∧ later.getLast? = some e ∧
      e.2.record.message = .ok m ∧ Payload.parse m = .ok v := by
  obtain ⟨target, v, -, hparse, hrecords⟩ := records_of_noContent cap hscript hreply h204
  have hmine := records_of_entries cap (c := c) hes
  rw [hsplit, hrecords] at hmine
  obtain ⟨-, hlater⟩ := List.cons.inj hmine
  have hlast : later.getLast?.map (·.2.record) =
      some (boundRecord r.method target Log.Level.info v.indented) := by
    rw [← List.getLast?_map, hlater]
    rfl
  obtain ⟨e, he, hrecord⟩ := Option.map_eq_some_iff.mp hlast
  refine ⟨v, e, v.indented, hparse, he, ?_, ?_⟩
  · rw [hrecord]
    rfl
  · exact Payload.parse_indented (Payload.parse_eq_ok_iff.mp hparse).strict

/-- Let each connection of a run carry one request that reaches the handler, with a method that has
no surrogates, and let each record have a time that can be written. Then a handler in JSON writes,
in order, one line for each record that both thresholds let through, and a stream with no other
handler gets just these lines. Each line is ASCII, has no line feed but at its end, and reads back
as an object with the record's level, logger and message. The first record of a request is bound to
nothing; all its others are bound to its own method and target, and the last one of a request that
is told that its payload was read shows the payload's value. -/
theorem App.each_record_on_its_line (cap : Int) (run : List Moment) (hrun : OneRequestEach run)
    (hreach : ∀ m ∈ run, ∀ r, m.event = .request r → r.ReachesHandler ∧ Encodable r.method)
    (es : List (Connection × Log.Stamped))
    (hes : es.map (fun e => (e.1, e.2.record)) = (create cap).log run)
    (htime : ∀ e ∈ es, Timestamp.InYears e.2.time) :
    (∀ e ∈ es, ∃ bound v, Tells e.2 bound v) ∧
    (∀ (s : Log.Sink) (h : Log.Handler), h.style = .json →
      h.written s (es.map (·.2)) =
        ((es.map (·.2)).filter (h.lets s)).flatMap fun e => e.line ++ Text.ofString "\n") ∧
    (∀ (s : Log.Sink) (o : Log.Output) (target : Log.Target) (h : Log.Handler),
      target.isStream = true → s.handlers.filter (·.target = target) = [h] →
      (o.emitEach s (es.map (·.2))).stream target =
        o.stream target ++ h.written s (es.map (·.2))) ∧
    ∀ (c : Connection) (r : Request) (ms : List Message),
      script c run = .request r :: ms.map .message →
      ∃ target first later, r.target = .ok target ∧ es.filter (·.1 = c) = first :: later ∧
        (∃ v, Tells first.2 none v) ∧
        (∀ e ∈ later, ∃ v, Tells e.2 (some (r.method, target)) v) ∧
        ∀ reply ∈ ((create cap).footprint c run).replies,
          reply.response.map (·.status) = some 204 →
          ∃ v e m, Payload.parse (decode (payload ms)) = .ok v ∧ later.getLast? = some e ∧
            e.2.record.message = .ok m ∧ Payload.parse m = .ok v := by
  -- a request that opens a script is one of the run
  have hrequest : ∀ (c : Connection) (r : Request) (ms : List Message),
      script c run = .request r :: ms.map .message → r.ReachesHandler ∧ Encodable r.method := by
    intro c r ms hscript
    have hevent : Event.request r ∈ script c run := hscript ▸ List.mem_cons_self
    obtain ⟨m, hm, hmr⟩ := List.mem_map.mp hevent
    exact hreach m (List.mem_of_mem_filter hm) r hmr
  have htold : ∀ e ∈ es, ∃ bound v, Tells e.2 bound v := by
    -- an entry is one of those of its connection, which has a request
    intro e he
    have hlogged : (e.1, e.2.record) ∈ (create cap).log run := hes ▸ List.mem_map_of_mem he
    obtain ⟨m, hm, hc⟩ := connection_of_log hlogged
    obtain ⟨r, ms, hscript⟩ := hrun m hm
    obtain ⟨hr, hmethod⟩ := hrequest _ r ms hscript
    obtain ⟨target, first, later, -, hsplit, hfirst, hlater⟩ :=
      lines_of_connection cap hr hmethod hscript hes htime
    have hmine : e ∈ es.filter (·.1 = m.connection) :=
      List.mem_filter.mpr ⟨he, decide_eq_true hc.symm⟩
    rw [hsplit] at hmine
    rcases List.mem_cons.mp hmine with rfl | hin
    · exact ⟨none, hfirst⟩
    · exact ⟨some (r.method, target), hlater e hin⟩
  refine ⟨htold, ?_, ?_, ?_⟩
  · intro s h hjson
    apply Log.Handler.written_eq_lines hjson
    intro e he
    obtain ⟨entry, hentry, rfl⟩ := List.mem_map.mp he
    obtain ⟨_, _, htells⟩ := htold entry hentry
    exact ⟨_, htells.written, htells.ascii⟩
  · intro s o target h hstream honly
    exact Log.Output.stream_emitEach hstream honly _ o
  · intro c r ms hscript
    obtain ⟨hr, hmethod⟩ := hrequest c r ms hscript
    obtain ⟨target, first, later, ht, hsplit, hfirst, hlater⟩ :=
      lines_of_connection cap hr hmethod hscript hes htime
    refine ⟨target, first, later, ht, hsplit, hfirst, hlater, ?_⟩
    intro reply hreply h204
    exact value_of_last cap hscript hes hsplit hreply h204

/-- Two clients that are fed in turn, with all records at the start of the epoch, and a sink as the
program sets it up for lines in JSON. The first client sends the number 12. -/
theorem App.each_record_on_its_line_two_clients :
    let es := ((create 0).log twoClients).map fun x => (x.1, Log.Stamped.mk .zero x.2)
    let s := Log.Sink.configure Log.Level.info true .standardOutput []
    let h : Log.Handler := ⟨.standardOutput, Log.Level.info, .json⟩
    (∀ e ∈ es, ∃ bound v, Tells e.2 bound v) ∧
      (Log.Output.emitEach ⟨[], [], .bare⟩ s (es.map (·.2))).stream .standardOutput =
        ((es.map (·.2)).filter (h.lets s)).flatMap (fun e => e.line ++ Text.ofString "\n") ∧
      ∃ target first later e m, letterRequest.target = .ok target ∧
        es.filter (·.1 = 1) = first :: later ∧ (∃ v, Tells first.2 none v) ∧
        later.getLast? = some e ∧ (∃ v, Tells e.2 (some (letterRequest.method, target)) v) ∧
        e.2.record.message = .ok m ∧ Payload.parse m = .ok (.int 12) := by
  intro es s h
  have hes : es.map (fun e => (e.1, e.2.record)) = (create 0).log twoClients := by
    rw [List.map_map]
    exact List.map_id _
  have htime : ∀ e ∈ es, Timestamp.InYears e.2.time := by
    intro e he
    obtain ⟨x, -, rfl⟩ := List.mem_map.mp he
    exact Timestamp.inYears_zero
  have hletter : letterRequest.ReachesHandler := ⟨rfl, by decide, _, _, rfl⟩
  have hreach : ∀ m ∈ twoClients, ∀ r, m.event = .request r →
      r.ReachesHandler ∧ Encodable r.method := by
    intro m hm r hr
    simp only [twoClients, List.mem_cons, List.not_mem_nil, or_false] at hm
    rcases hm with rfl | rfl | rfl | rfl | rfl <;> cases hr <;>
      exact ⟨hletter, encodable_ofString _⟩
  obtain ⟨htold, hwritten, hstream, hrequests⟩ :=
    each_record_on_its_line 0 twoClients oneRequestEach_twoClients hreach es hes htime
  have hscript : script 1 twoClients = .request letterRequest ::
      [Message.chunk (encode "1") true, .chunk (encode "2") false].map .message := rfl
  obtain ⟨target, first, later, ht, hsplit, hfirst, hlater, hvalue⟩ :=
    hrequests 1 letterRequest _ hscript
  -- the two chunks are the value 12 in writing
  have hsent : encode "1" ++ encode "2" = encode (Json.Value.int 12).compact := by decide +kernel
  have hjson : Json.parse (decode (encode "1" ++ encode "2")) = .ok (.int 12) := by
    have hdecode : decode (encode (Json.Value.int 12).compact) = (Json.Value.int 12).compact :=
      decode_encode ((Json.encodable_render_iff Json.bare_compact 0 _).mpr trivial)
    rw [hsent, hdecode]
    exact Json.parse_iff_document.mpr (Json.render_document Json.separates_compact rfl trivial)
  have hreply := (footprint_of_value 0 hletter.route ht hscript (.more _ (.last _ []))
    (fits_of_le (.inl rfl)) hjson).1
  obtain ⟨v, e, m, hparse, hlast, hmessage, hread⟩ :=
    hvalue (.sent .noContent) (hreply ▸ List.mem_singleton.mpr rfl) rfl
  have hv : v = .int 12 := Except.ok.inj
    ((Payload.parse_eq_ok_iff_json.mp hparse).symm.trans hjson)
  refine ⟨htold, ?_, target, first, later, e, m, ht, hsplit, hfirst, hlast,
    hlater e (List.mem_of_getLast? hlast), hmessage, hv ▸ hread⟩
  rw [hstream s _ .standardOutput h rfl rfl, hwritten s h rfl]
  exact List.nil_append _

end JsonTap.Web
