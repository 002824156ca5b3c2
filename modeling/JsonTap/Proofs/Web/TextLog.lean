import JsonTap.Proofs.Log.TextLine
import JsonTap.Proofs.Text.Printable
import JsonTap.Proofs.Web.LogLines

/-!
# Text lines of a run

Clients choose the methods and targets of their requests and the octets of their bodies. In a run of
requests with no line feed in method and target, no body makes a text handler write a line that is
not the line of a record (`App.no_line_is_forged`): a line feed ends the line of a record, or it
stands in the value that a record shows, and then the next line begins with a blank or a closing
bracket, never with a time.

`Told` lists the records of requests. The exchanges of a run are those of its requests
(`Exchange.Serves`), which each turn keeps, so every record of a run is on the list.
-/

namespace JsonTap.Web

open Text

/-! ## The records of requests -/

/-- The records that tell of a request, given its method and its target. -/
inductive Told (method target : Text) : Log.Record → Prop
  | line : Told method target (lineRecord method target)
  | ended : Told method target (boundRecord method target Log.Level.info "end")
  | value {t : Text} {v : Json.Value} : Payload.parse t = .ok v →
      Told method target (boundRecord method target Log.Level.info v.indented)
  | malformed {t : Text} {f : Fault} : Payload.parse t = .error f →
      Told method target (boundRecord method target Log.Level.warning
        (Outcome.malformedMessage method target f))
  | tooLarge : Told method target (boundRecord method target Log.Level.warning
      (Outcome.tooLargeMessage method target))
  | disconnected : Told method target (boundRecord method target Log.Level.debug
      "Client disconnected before end of body")

/-- An exchange goes on as it began, for a request whose method and target have a property. -/
structure Exchange.Serves (p : Text → Text → Prop) (e : Exchange) : Prop where
  scope : e.scope = (awaiting e.request e.target).scope
  request : p e.request.method e.target

/-- What is said in an exchange is bound to its request. -/
theorem Exchange.Serves.say {p : Text → Text → Prop} {e : Exchange} (h : e.Serves p)
    (level : Log.Level) (message : Text) :
    Log.say exchangeLogger e.scope level message =
      boundRecord e.request.method e.target level message := by
  rw [h.scope]
  exact say_awaiting e.request e.target level message

/-- Whatever ends a body, the records of the end tell of the request. -/
theorem Exchange.Serves.told {p : Text → Text → Prop} {e : Exchange} (h : e.Serves p) (cap : Int)
    (b : BodyEnd) :
    ∀ r ∈ (conclude cap b).records e, Told e.request.method e.target r := by
  cases b with
  | disconnected =>
      intro r hr
      rw [conclude, Outcome.records, List.mem_singleton, h.say] at hr
      exact hr ▸ .disconnected
  | tooLarge received =>
      intro r hr
      rw [conclude, Outcome.records, List.mem_singleton, h.say] at hr
      exact hr ▸ .tooLarge
  | whole g =>
      rw [conclude, judge]
      cases hparse : Payload.parse (Payload.text g.chunks) with
      | ok v =>
          dsimp only [Outcome.records]
          rw [h.say, h.say]
          exact List.forall_mem_cons.mpr ⟨.ended, List.forall_mem_singleton.mpr (.value hparse)⟩
      | error f =>
          dsimp only [Outcome.records]
          rw [h.say, h.say]
          exact List.forall_mem_cons.mpr
            ⟨.ended, List.forall_mem_singleton.mpr (.malformed hparse)⟩

/-- The requests of some events have methods and targets with a property. -/
def Event.Brings (p : Text → Text → Prop) (e : Event) : Prop :=
  ∀ r target, e = .request r → r.target = .ok target → p r.method target

/-- A turn leaves an exchange of a request, and tells of one. -/
theorem turn_told {p : Text → Text → Prop} (cap : Int) {x : Option Exchange} {ev : Event}
    (hx : ∀ e ∈ x, e.Serves p) (hev : ev.Brings p) :
    (∀ e ∈ (turn cap x ev).waiting, e.Serves p) ∧
      ∀ r ∈ (turn cap x ev).records, ∃ method target, p method target ∧ Told method target r := by
  have hanswered : ∀ reply, (∀ e ∈ (Turn.answered reply).waiting, e.Serves p) ∧
      ∀ r ∈ (Turn.answered reply).records, ∃ method target, p method target ∧
        Told method target r := by
    intro reply
    exact ⟨fun e he => (Option.not_mem_none e he).elim, List.forall_mem_nil _⟩
  cases ev with
  | request r =>
      unfold turn
      dsimp only
      cases Route.ofPath r.path with
      | notFound => exact hanswered _
      | redirect path => exact hanswered _
      | exchange =>
          dsimp only
          cases hstart : Exchange.start r with
          | error u => exact hanswered _
          | ok e =>
              obtain ⟨target, ht, rfl⟩ := start_eq_ok_iff.mp hstart
              have hp : p r.method target := hev r target rfl ht
              refine ⟨?_, List.forall_mem_singleton.mpr ⟨r.method, target, hp, .line⟩⟩
              intro e he
              cases he
              exact ⟨rfl, hp⟩
  | message m =>
      cases x with
      | none => exact ⟨hx, List.forall_mem_nil _⟩
      | some e =>
          have he : e.Serves p := hx e rfl
          unfold turn Exchange.receive
          dsimp only
          cases e.body.receive cap m with
          | inl g =>
              -- only the body has changed
              refine ⟨?_, List.forall_mem_nil _⟩
              intro e' he'
              cases he'
              exact ⟨he.scope, he.request⟩
          | inr b =>
              refine ⟨fun e' he' => (Option.not_mem_none e' he').elim, ?_⟩
              intro r hr
              exact ⟨e.request.method, e.target, he.request, he.told cap b r hr⟩

namespace App

/-- All exchanges are those of requests whose methods and targets have a property. -/
def Serves (p : Text → Text → Prop) (a : App) : Prop :=
  ∀ c, ∀ e ∈ a.exchange? c, e.Serves p

theorem serves_create (p : Text → Text → Prop) (cap : Int) : (create cap).Serves p :=
  fun _ => nofun

/-- A turn for a request with the property keeps it for all exchanges. -/
theorem Serves.next {p : Text → Text → Prop} {a : App} (h : a.Serves p) {m : Moment}
    (hm : m.event.Brings p) : (a.next m).Serves p := by
  have hturn := a.next_takesTurn m
  intro c
  by_cases hc : c = m.connection
  · rw [hc, hturn.here]
    exact (turn_told a.cap (h m.connection) hm).1
  · rw [hturn.elsewhere c hc]
    exact h c

/-- Every record of a run tells of a request. -/
theorem Serves.log_told {p : Text → Text → Prop} {a : App} (h : a.Serves p) {run : List Moment}
    (hrun : ∀ m ∈ run, m.event.Brings p) :
    ∀ x ∈ a.log run, ∃ method target, p method target ∧ Told method target x.2 := by
  induction run generalizing a with
  | nil => exact nofun
  | cons m ms ih =>
      obtain ⟨hm, hms⟩ := List.forall_mem_cons.mp hrun
      intro x hx
      rcases List.mem_append.mp hx with hnow | hlater
      · obtain ⟨r, hr, rfl⟩ := List.mem_map.mp hnow
        rw [(a.step_turn m.now m.connection m.event).2] at hr
        exact (turn_told a.cap (h m.connection) hm).2 r hr
      · exact ih (h.next hm) hms x hlater

end App

/-! ## Messages -/

def Unbroken (method target : Text) : Prop :=
  ('\n' : CodePoint) ∉ method ∧ ('\n' : CodePoint) ∉ target

/-- A request line without line feeds in its parts has none. -/
theorem Unbroken.requestLine {method target : Text} (h : Unbroken method target) :
    ('\n' : CodePoint) ∉ Exchange.requestLine method target := by
  unfold Exchange.requestLine
  rw [List.mem_append, List.mem_append, not_or, not_or]
  exact ⟨⟨h.1, (asciiLine_ofString (s := " ") (by decide)).no_lineFeed⟩, h.2⟩

/-- A request line between printable code points. -/
def PrintableAround (line t : Text) : Prop :=
  ∃ front back, t = front ++ line ++ back ∧ front.Printable ∧ back.Printable

/-- What is printable around a line without line feeds has none. -/
theorem PrintableAround.no_lineFeed {line t : Text} (h : PrintableAround line t)
    (hline : ('\n' : CodePoint) ∉ line) : ('\n' : CodePoint) ∉ t := by
  obtain ⟨front, back, rfl, hfront, hback⟩ := h
  rw [List.mem_append, List.mem_append, not_or, not_or]
  exact ⟨⟨hfront.no_lineFeed, hline⟩, hback.no_lineFeed⟩

/-- Whatever the body holds, the warning about it is printable around the request line. -/
theorem Outcome.printable_malformedMessage (method target : Text) {t : Text} {f : Fault}
    (h : Payload.parse t = .error f) :
    PrintableAround (Exchange.requestLine method target) (malformedMessage method target f) :=
  ⟨ofString "Malformed JSON body for ", ofString ": " ++ f.message, List.append_assoc _ _ _,
    printable_ofString (by decide),
    printable_append.mpr ⟨printable_ofString (by decide), Payload.printable_message h⟩⟩

theorem Outcome.printable_tooLargeMessage (method target : Text) :
    PrintableAround (Exchange.requestLine method target) (tooLargeMessage method target) :=
  ⟨ofString "Rejected oversized body for ", [], (List.append_nil _).symm,
    printable_ofString (by decide), List.forall_mem_nil _⟩

def ShowsValue (r : Log.Record) : Prop :=
  ∃ method target t v, Payload.parse t = .ok v ∧
    r = boundRecord method target Log.Level.info v.indented

/-- A record that tells of a request has one line, unless it shows a value: the lines of a value go
on from one another. -/
theorem Told.lines {method target : Text} (h : Unbroken method target) {r : Log.Record}
    (hr : Told method target r) :
    r.logger.AsciiLine ∧ r.raised = none ∧ ∃ message, r.message = .ok message ∧
      (('\n' : CodePoint) ∉ message ∨ ShowsValue r ∧ message.Continued) := by
  have hlogger : (ofString "payload_listener.web.app").AsciiLine := asciiLine_ofString (by decide)
  have hword : ∀ s ∈ ["end", "Client disconnected before end of body"],
      ('\n' : CodePoint) ∉ ofString s := by
    decide
  cases hr with
  | line => exact ⟨hlogger, rfl, _, rfl, .inl h.requestLine⟩
  | ended => exact ⟨hlogger, rfl, _, rfl, .inl (hword _ (by simp))⟩
  | value hparse =>
      exact ⟨hlogger, rfl, _, rfl, .inr ⟨⟨method, target, _, _, hparse, rfl⟩,
        Json.Value.continued_indented _⟩⟩
  | malformed hparse =>
      exact ⟨hlogger, rfl, _, rfl, .inl
        ((Outcome.printable_malformedMessage method target hparse).no_lineFeed h.requestLine)⟩
  | tooLarge =>
      exact ⟨hlogger, rfl, _, rfl, .inl
        ((Outcome.printable_tooLargeMessage method target).no_lineFeed h.requestLine)⟩
  | disconnected => exact ⟨hlogger, rfl, _, rfl, .inl (hword _ (by simp))⟩

/-- A line feed that a text handler writes for such a record ends its line, or the value goes on. -/
theorem Told.lineFeed {method target : Text} (h : Unbroken method target) {e : Log.Stamped}
    (hr : Told method target e.record) {s : Log.Sink} {handler : Log.Handler}
    (htext : handler.style = .text) {start rest : Text}
    (hsplit : handler.written s [e] = start ++ ('\n' : CodePoint) :: rest) :
    rest = [] ∨ ShowsValue e.record ∧ ∃ c cs, rest = c :: cs ∧ c ∈ continuing := by
  rcases Log.Handler.written_lineFeed hsplit with hend | ⟨t, within, hline, ht, rfl⟩
  · exact .inl hend
  obtain ⟨hlogger, hraised, message, hmessage, hkind⟩ := hr.lines h
  rw [htext] at hline
  rcases hkind with hfree | ⟨hvalue, hcontinued⟩
  · have hnone := Log.textLine_no_lineFeed hlogger hraised hmessage hfree hline
    rw [ht] at hnone
    exact absurd (List.mem_append_right start List.mem_cons_self) hnone
  · obtain ⟨c, cs, rfl, hc⟩ :=
      Log.textLine_continued hlogger hraised hmessage hcontinued hline start within ht
    exact .inr ⟨hvalue, c, _, rfl, hc⟩

/-! ## Runs -/

/-- Let no request of a run have a line feed in its method or in its target, whatever octets come on
the connections and in which chunks. Wherever there is a line feed in what a text handler writes for
the records of the run, it is in what is written for one of the records. There it is the end, or the
record shows a value, and the next line begins with a blank or a closing bracket. And every warning
is either that about a body that is too large, or that about a body that is no strict JSON, and this
one has printable code points only around the method and the target, whatever the body holds. -/
theorem App.no_line_is_forged (cap : Int) (run : List Moment)
    (hrun : ∀ m ∈ run, m.event.Brings Unbroken) (es : List (Connection × Log.Stamped))
    (hes : es.map (fun e => (e.1, e.2.record)) = (create cap).log run) :
    (∀ (s : Log.Sink) (h : Log.Handler), h.style = .text → ∀ before after,
      h.written s (es.map (·.2)) = before ++ ('\n' : CodePoint) :: after →
      ∃ earlier e later start rest, es.map (·.2) = earlier ++ e :: later ∧
        h.written s [e] = start ++ ('\n' : CodePoint) :: rest ∧
        before = h.written s earlier ++ start ∧ after = rest ++ h.written s later ∧
        (rest = [] ∨ ShowsValue e.record ∧ ∃ c cs, rest = c :: cs ∧ c ∈ continuing)) ∧
    ∀ e ∈ es, e.2.record.level = Log.Level.warning → ∃ method target,
      e.2.record =
        boundRecord method target Log.Level.warning (Outcome.tooLargeMessage method target) ∨
      ∃ t f, Payload.parse t = .error f ∧
        e.2.record = boundRecord method target Log.Level.warning
          (Outcome.malformedMessage method target f) ∧
        PrintableAround (Exchange.requestLine method target)
          (Outcome.malformedMessage method target f) := by
  have htold : ∀ e ∈ es, ∃ method target, Unbroken method target ∧
      Told method target e.2.record := by
    intro e he
    have hlogged : (e.1, e.2.record) ∈ (create cap).log run := hes ▸ List.mem_map_of_mem he
    exact (serves_create Unbroken cap).log_told hrun _ hlogged
  constructor
  · intro s h htext before after hsplit
    obtain ⟨earlier, e, later, start, rest, hall, he, hbefore, hafter⟩ :=
      Log.Handler.written_split hsplit
    have hmem : e ∈ es.map (·.2) := hall ▸ List.mem_append_right earlier List.mem_cons_self
    obtain ⟨entry, hentry, rfl⟩ := List.mem_map.mp hmem
    obtain ⟨method, target, hline, hr⟩ := htold entry hentry
    exact ⟨earlier, entry.2, later, start, rest, hall, he, hbefore, hafter,
      hr.lineFeed hline htext he⟩
  · intro e he hlevel
    obtain ⟨method, target, -, hr⟩ := htold e he
    refine ⟨method, target, ?_⟩
    generalize e.2.record = r at hlevel hr
    -- of all records only the two about a rejected body are warnings
    cases hr with
    | line => cases hlevel
    | ended => cases hlevel
    | value _ => cases hlevel
    | malformed hparse =>
        exact .inr ⟨_, _, hparse, rfl, Outcome.printable_malformedMessage method target hparse⟩
    | tooLarge => exact .inl rfl
    | disconnected => cases hlevel

/-! ## A key with a line feed -/

/-- An object that has one key twice, which is a line feed. -/
def lineFeedTwice : Text := "\x7b\"\\n\":null,\"\\n\":null\x7d"

/-- Two clients that are fed in turn. The first sends a key with a line feed twice, in two chunks;
the second sends a list, whose value is shown on three lines. -/
def twoForgers : List Moment :=
  [⟨0, 1, .request letterRequest⟩, ⟨1, 2, .request letterRequest⟩,
    ⟨2, 1, .message (.chunk (Utf8.encode (lineFeedTwice.take 6)) true)⟩,
    ⟨3, 2, .message (.chunk (Utf8.encode (Json.Value.arr [.null]).compact) false)⟩,
    ⟨4, 1, .message (.chunk (Utf8.encode (lineFeedTwice.drop 6)) false)⟩]

theorem parse_lineFeedTwice :
    Json.parse lineFeedTwice = .error (.duplicateKey [('\n' : CodePoint)]) := by
  have hkey : Json.Grammar.Chars [('\\' : CodePoint), ('n' : CodePoint)] [('\n' : CodePoint)] :=
    .simple .lineFeed .nil
  have hmember : Json.Grammar.Member _ ([('\n' : CodePoint)], .null) :=
    .mk .nil hkey .nil .nil .nullWord .nil
  exact Json.parse_duplicateKey (.cons hmember (.one hmember)) rfl

/-- The records of both clients at the start of the epoch, as the program writes text lines. The
list is shown on three lines; the key is quoted in a warning, which is printable. -/
theorem App.no_line_is_forged_two_forgers :
    let es := ((create 0).log twoForgers).map fun x => (x.1, Log.Stamped.mk .zero x.2)
    let s := Log.Sink.configure Log.Level.info false .standardOutput []
    let h : Log.Handler := ⟨.standardOutput, Log.Level.info, .text⟩
    (∃ e ∈ es, e.2.record =
      boundRecord "POST" "/a" Log.Level.info (Text.ofString "[\n  null\n]")) ∧
    (∃ e ∈ es, e.2.record.message = .ok "Malformed JSON body for POST /a: Duplicate key '\\n'" ∧
      ∃ method target t f, Payload.parse t = .error f ∧
        e.2.record = boundRecord method target Log.Level.warning
          (Outcome.malformedMessage method target f) ∧
        PrintableAround (Exchange.requestLine method target)
          (Outcome.malformedMessage method target f)) ∧
    ∀ before after, h.written s (es.map (·.2)) = before ++ ('\n' : CodePoint) :: after →
      ∃ earlier e later start rest, es.map (·.2) = earlier ++ e :: later ∧
        h.written s [e] = start ++ ('\n' : CodePoint) :: rest ∧
        before = h.written s earlier ++ start ∧ after = rest ++ h.written s later ∧
        (rest = [] ∨ ShowsValue e.record ∧ ∃ c cs, rest = c :: cs ∧ c ∈ continuing) := by
  intro es s h
  have hes : es.map (fun e => (e.1, e.2.record)) = (create 0).log twoForgers := by
    rw [List.map_map]
    exact List.map_id _
  have hletter : letterRequest.ReachesHandler := ⟨rfl, by decide, _, _, rfl⟩
  have ht : letterRequest.target = .ok "/a" := rfl
  have hrun : ∀ m ∈ twoForgers, m.event.Brings Unbroken := by
    intro m hm r target hr htarget
    have hsame : r = letterRequest := by
      simp only [twoForgers, List.mem_cons, List.not_mem_nil, or_false] at hm
      rcases hm with rfl | rfl | rfl | rfl | rfl <;> cases hr <;> rfl
    rw [hsame, ht] at htarget
    rw [hsame, ← Except.ok.inj htarget]
    exact ⟨by decide, by decide⟩
  obtain ⟨hlines, hwarnings⟩ := no_line_is_forged 0 twoForgers hrun es hes
  refine ⟨?_, ?_, hlines s h rfl⟩
  · -- the record that shows the value of the second client
    have hscript : script 2 twoForgers = .request letterRequest ::
        [Message.chunk (Utf8.encode (Json.Value.arr [.null]).compact) false].map .message := rfl
    have hparse : Json.parse (Utf8.decode (Utf8.encode (Json.Value.arr [.null]).compact)) =
        .ok (.arr [.null]) := by
      have hdecode : Utf8.decode (Utf8.encode (Json.Value.arr [.null]).compact) =
          (Json.Value.arr [.null]).compact :=
        Utf8.decode_encode ((Json.encodable_render_iff Json.bare_compact 0 _).mpr
          ⟨trivial, trivial⟩)
      rw [hdecode]
      exact Json.parse_iff_document.mpr
        (Json.render_document Json.separates_compact rfl ⟨trivial, trivial⟩)
    have hrecords := (footprint_of_value 0 hletter.route ht hscript (.last _ [])
      (fits_of_le (.inl rfl)) hparse).2
    apply entry_of_footprint 0 hes (c := 2)
    rw [hrecords]
    exact List.mem_cons_of_mem _ (List.mem_cons_of_mem _ List.mem_cons_self)
  · -- the warning about the first client, whose repeated key is a line feed
    have hscript : script 1 twoForgers = .request letterRequest ::
        [Message.chunk (Utf8.encode (lineFeedTwice.take 6)) true,
          .chunk (Utf8.encode (lineFeedTwice.drop 6)) false].map .message := rfl
    have hsent : Utf8.encode (lineFeedTwice.take 6) ++ Utf8.encode (lineFeedTwice.drop 6) =
        Utf8.encode lineFeedTwice := by decide +kernel
    have hparse : Json.parse (Utf8.decode (Utf8.encode (lineFeedTwice.take 6) ++
        Utf8.encode (lineFeedTwice.drop 6))) = .error (.duplicateKey [('\n' : CodePoint)]) := by
      have hdecode : Utf8.decode (Utf8.encode lineFeedTwice) = lineFeedTwice :=
        Utf8.decode_encode (Utf8.encodable_ofString _)
      rw [hsent, hdecode, parse_lineFeedTwice]
    have hrecords := records_of_refusal 0 hletter.route ht hscript (.more _ (.last _ []))
      (fits_of_le (.inl rfl)) hparse
    have hlast : boundRecord "POST" "/a" Log.Level.warning (Outcome.malformedMessage "POST" "/a"
        (.malformedBody (.duplicateKey [('\n' : CodePoint)]))) ∈
        ((create 0).footprint 1 twoForgers).records := by
      rw [hrecords]
      exact List.mem_cons_of_mem _ (List.mem_cons_of_mem _ List.mem_cons_self)
    obtain ⟨e, he, hrecord⟩ := entry_of_footprint 0 hes hlast
    refine ⟨e, he, ?_, ?_⟩
    · rw [hrecord]
      decide +kernel
    · have hlevel : e.2.record.level = Log.Level.warning := by
        rw [hrecord]
        rfl
      obtain ⟨method, target, htoo | hmalformed⟩ := hwarnings e he hlevel
      · rw [hrecord] at htoo
        cases htoo
      · exact ⟨method, target, hmalformed⟩

end JsonTap.Web
