import JsonTap.Proofs.Web.Body
import JsonTap.Proofs.Web.Route
import JsonTap.Proofs.Web.Trace

/-!
# The conditions of a request

A request that reaches the handler is in one of five conditions after every step of a run. It is
waiting for its body, or its exchange has ended in one of four ways; `Condition.Shows` says for each
of them what the log, the counts and the client have got. The condition is a function of the
messages that came (`Condition.of`), so `each_request_in_one_condition` shows that there is exactly
one, and that an end is never followed by anything else.
-/

namespace JsonTap.Web

open Metrics

/-! ## Requests that reach the handler -/

/-- The path begins with a slash and is one line, and its octets are known. -/
structure Request.ReachesHandler (r : Request) : Prop where
  slash : r.path.head? = some ('/' : CodePoint)
  line : ('\n' : CodePoint) ∉ r.path
  raw : ∃ b bs, r.rawPath = some (b :: bs)

/-- A path that a request line can carry has no line feed. -/
theorem Request.ReachesHandler.oneLine {r : Request} (h : r.ReachesHandler) :
    OneLine r.path := by
  obtain ⟨rest, hrest⟩ := List.head?_eq_some_iff.mp h.slash
  refine ⟨rest, ?_, .inl hrest⟩
  intro hmem
  exact h.line (hrest ▸ List.mem_cons_of_mem _ hmem)

/-- No other route takes such a request. -/
theorem Request.ReachesHandler.route {r : Request} (h : r.ReachesHandler) :
    Route.ofPath r.path = .exchange :=
  ofPath_eq_exchange_iff.mpr h.oneLine

/-- Its target can be told. -/
theorem Request.ReachesHandler.target {r : Request} (h : r.ReachesHandler) :
    ∃ target, r.target = .ok target := by
  obtain ⟨b, bs, hraw⟩ := h.raw
  rw [Request.target, Request.targetPath, hraw]
  exact ⟨_, rfl⟩

/-- The turn of a request that is led to an exchange opens one. -/
theorem turn_request {r : Request} {target : Text} (hroute : Route.ofPath r.path = .exchange)
    (ht : r.target = .ok target) (cap : Int) (x : Option Exchange) :
    turn cap x (.request r) = .opened (.awaiting r target) := by
  have hstart := start_eq_ok_iff.mpr ⟨target, ht, rfl⟩
  rw [Web.turn, hroute, hstart]

/-- The turn of such a request opens an exchange. -/
theorem Request.ReachesHandler.turn {r : Request} {target : Text} (h : r.ReachesHandler)
    (ht : r.target = .ok target) (cap : Int) (x : Option Exchange) :
    turn cap x (.request r) = .opened (.awaiting r target) :=
  turn_request h.route ht cap x

/-! ## The messages of a request -/

/-- Without a request, messages leave no trace. -/
theorem alone_none (cap : Int) {moments : List Moment} {ms : List Message}
    (h : moments.map (·.event) = ms.map .message) : alone cap none moments = .empty := by
  induction moments generalizing ms with
  | nil => rfl
  | cons m moments ih =>
      cases ms with
      | nil => cases h
      | cons msg ms =>
          have hevent : m.event = .message msg := (List.cons.inj h).1
          rw [alone, hevent]
          exact ih (List.cons.inj h).2

/-- An exchange shows nothing until its body ends, and then its end. -/
theorem alone_messages (cap : Int) (e : Exchange) {moments : List Moment} {ms : List Message}
    (h : moments.map (·.event) = ms.map .message) :
    match e.body.readAll cap ms with
    | .inl _ => alone cap (some e) moments = .empty
    | .inr b => ∃ now, alone cap (some e) moments =
        (Turn.ended e (Exchange.conclude cap b)).footprint now := by
  induction moments generalizing e ms with
  | nil =>
      cases ms with
      | nil => rfl
      | cons msg ms => cases h
  | cons m moments ih =>
      cases ms with
      | nil => cases h
      | cons msg ms =>
          have hevent : m.event = .message msg := (List.cons.inj h).1
          have hrest := (List.cons.inj h).2
          rw [alone, hevent, turn, Exchange.receive, Gathering.readAll]
          cases e.body.receive cap msg with
          | inl g => exact ih { e with body := g } hrest
          | inr b =>
              -- the body ends here; the messages that are left find no exchange
              refine ⟨m.now, ?_⟩
              show ((Turn.ended e _).footprint m.now).append (alone cap none moments) = _
              rw [alone_none cap hrest, Footprint.append_empty]

/-- Where a request stands. -/
inductive Condition where
  | waiting
  | ok
  | malformed
  | tooLarge
  | disconnected
  deriving DecidableEq

/-- The record about a request, which is bound to nothing. -/
def lineRecord (method target : Text) : Log.Record :=
  .note Log.Level.info "payload_listener.web.app" (Exchange.requestLine method target) []

/-- A record that is bound to the method and the target of a request. -/
def boundRecord (method target : Text) (level : Log.Level) (message : Text) : Log.Record :=
  { Log.Record.note level "payload_listener.web.app" message [] with
    context := .map [("method", .str method), ("target", .str target)] }

/-- What is said while a body is awaited, or after it, is bound to the request. -/
theorem say_awaiting (r : Request) (target : Text) (level : Log.Level) (message : Text) :
    Log.say exchangeLogger (Exchange.awaiting r target).scope level message =
      boundRecord r.method target level message := by
  rfl

/-- Something may have been sent, but nothing that says that the payload was read. -/
def Refused (replies : List Reply) : Prop :=
  ∃ reply, replies = [reply] ∧ ∀ response, reply.response = some response → response.status ≠ 204

/-- What is seen of a request in a condition, given the octets of its body. -/
def Condition.Shows (method target : Text) (body : List Octet) (f : Footprint) : Condition → Prop
  | .waiting =>
    f.records = [lineRecord method target] ∧ f.increments = [] ∧ f.replies = []
  | .ok =>
    ∃ v, Payload.parse (Utf8.decode body) = .ok v ∧
      f.records = [lineRecord method target,
        boundRecord method target Log.Level.info "end",
        boundRecord method target Log.Level.info v.indented] ∧
      f.increments = [{ Tally.zero.addBody body.length with ok := 1 }] ∧
      f.replies = [.sent ⟨204, [], []⟩]
  | .malformed =>
    ∃ fault, Payload.parse (Utf8.decode body) = .error fault ∧
      f.records = [lineRecord method target,
        boundRecord method target Log.Level.info "end",
        boundRecord method target Log.Level.warning
          (Outcome.malformedMessage method target fault)] ∧
      f.increments = [{ Tally.zero.addBody body.length with malformed := 1 }] ∧ Refused f.replies
  | .tooLarge =>
    f.records = [lineRecord method target,
      boundRecord method target Log.Level.warning (Outcome.tooLargeMessage method target)] ∧
      f.increments = [{ Tally.zero with tooLarge := 1 }] ∧ Refused f.replies
  | .disconnected =>
    f.records = [lineRecord method target,
      boundRecord method target Log.Level.debug "Client disconnected before end of body"] ∧
      f.increments = [{ Tally.zero with disconnected := 1 }] ∧
      ∀ reply ∈ f.replies, reply.response = none

/-- The condition of a request whose exchange has ended. -/
def Condition.ofOutcome : Outcome → Condition
  | .ok _ _ => .ok
  | .malformed _ _ => .malformed
  | .tooLarge _ => .tooLarge
  | .disconnected => .disconnected

/-- The condition of a request after some messages. -/
def Condition.of (cap : Int) (ms : List Message) : Condition :=
  match Gathering.empty.readAll cap ms with
  | .inl _ => .waiting
  | .inr b => .ofOutcome (Exchange.conclude cap b)

/-- The outcome that a condition counts: of each kind one or none. -/
def Condition.counted : Condition → List (Nat × Nat × Nat × Nat)
  | .waiting => []
  | .ok => [(1, 0, 0, 0)]
  | .malformed => [(0, 1, 0, 0)]
  | .tooLarge => [(0, 0, 1, 0)]
  | .disconnected => [(0, 0, 0, 1)]

/-- A condition counts once, in its own place, if it counts at all. -/
theorem Condition.Shows.counted {method target : Text} {body : List Octet} {f : Footprint}
    {k : Condition} (h : k.Shows method target body f) :
    f.increments.map (fun t => (t.ok, t.malformed, t.tooLarge, t.disconnected)) = k.counted := by
  cases k with
  | waiting =>
      obtain ⟨-, hinc, -⟩ := h
      rw [hinc]
      rfl
  | ok =>
      obtain ⟨v, -, -, hinc, -⟩ := h
      rw [hinc]
      rfl
  | malformed =>
      obtain ⟨fault, -, -, hinc, -⟩ := h
      rw [hinc]
      rfl
  | tooLarge =>
      obtain ⟨-, hinc, -⟩ := h
      rw [hinc]
      rfl
  | disconnected =>
      obtain ⟨-, hinc, -⟩ := h
      rw [hinc]
      rfl

/-- The counts alone tell the conditions apart. -/
theorem Condition.Shows.unique {method target : Text} {body body' : List Octet} {f : Footprint}
    {k k' : Condition} (h : k.Shows method target body f) (h' : k'.Shows method target body' f) :
    k = k' := by
  -- what was counted is one value of a table in which no two conditions agree
  have hcounted := h.counted.symm.trans h'.counted
  cases k <;> cases k' <;> first | rfl | (revert hcounted; decide)

theorem status_ne_noContent (k : FaultKind) : k.status ≠ 204 := by
  cases k <;> decide

/-- A fault is never answered as a payload that was read. -/
theorem refused_faultReply (r : Request) (fault : Fault) (now : Int) :
    Refused [faultReply r fault now] := by
  refine ⟨_, rfl, ?_⟩
  intro response h
  unfold faultReply at h
  split at h
  · cases h
    decide
  · dsimp only at h
    split at h
    · cases h
      decide
    · cases h
      exact status_ne_noContent fault.kind

/-- What is seen of a request is its request line, and what its messages show. -/
theorem footprint_of_script (cap : Int) {run : List Moment} {c : Connection} {r : Request}
    {target : Text} {ms : List Message} (hroute : Route.ofPath r.path = .exchange)
    (ht : r.target = .ok target) (hscript : script c run = .request r :: ms.map .message) :
    ∃ m moments, run.filter (·.connection = c) = m :: moments ∧
      moments.map (·.event) = ms.map .message ∧
      (App.create cap).footprint c run =
        Footprint.append ⟨[Exchange.opening r.method target], [], []⟩
          (alone cap (some (.awaiting r target)) moments) := by
  obtain ⟨m, moments, hfilter, hevent, hrest⟩ := List.map_eq_cons_iff.mp hscript
  refine ⟨m, moments, hfilter, hrest, ?_⟩
  rw [App.footprint_eq_alone _ (App.hasBounds_create cap), hfilter, alone, hevent,
    turn_request hroute ht]
  rfl

/-- What an outcome says of the octets of a body that was read. -/
def Outcome.About (body : List Octet) : Outcome → Prop
  | .ok size v => size = body.length ∧ Payload.parse (Utf8.decode body) = .ok v
  | .malformed size fault => size = body.length ∧ Payload.parse (Utf8.decode body) = .error fault
  | _ => True

/-- A body that was read is judged by all of its octets. -/
theorem judge_eq {g : Gathering} (hg : g.Counted) {body : List Octet}
    (hbody : g.chunks.flatten = body) :
    Exchange.judge g = match Payload.parse (Utf8.decode body) with
      | .ok v => .ok body.length v
      | .error f => .malformed body.length f := by
  have hsize : g.received = body.length := by rw [← hbody, hg]
  cases hparse : Payload.parse (Utf8.decode body) <;>
    simp only [Exchange.judge, Payload.text, hbody, hsize, hparse]

/-- The outcome of a body that was read in full is about its octets. -/
theorem conclude_about {cap : Int} {ms : List Message} {b : BodyEnd}
    (h : Gathering.empty.readAll cap ms = .inr b) :
    (Exchange.conclude cap b).About (payload ms) := by
  cases b with
  | disconnected => exact trivial
  | tooLarge received => exact trivial
  | whole g =>
      obtain ⟨hflat, hcount⟩ := Gathering.readAll_whole Gathering.counted_empty h
      have hpayload : g.chunks.flatten = payload ms := hflat
      rw [Exchange.conclude, judge_eq hcount hpayload]
      cases hparse : Payload.parse (Utf8.decode (payload ms)) with
      | ok v => exact ⟨rfl, hparse⟩
      | error fault => exact ⟨rfl, hparse⟩

/-- While a body is awaited there is the request line, and nothing else. -/
theorem footprint_of_wait (cap : Int) {run : List Moment} {c : Connection} {r : Request}
    {target : Text} {ms : List Message} {g : Gathering} (hroute : Route.ofPath r.path = .exchange)
    (ht : r.target = .ok target) (hscript : script c run = .request r :: ms.map .message)
    (hread : Gathering.empty.readAll cap ms = .inl g) :
    (App.create cap).footprint c run = ⟨[lineRecord r.method target], [], []⟩ := by
  obtain ⟨m, moments, -, hmoments, hfoot⟩ := footprint_of_script cap hroute ht hscript
  have hmessages := alone_messages cap (.awaiting r target) hmoments
  rw [Exchange.awaiting_body, hread] at hmessages
  rw [hfoot, hmessages]
  rfl

/-- The end of an exchange is seen whole. -/
theorem footprint_of_end (cap : Int) {run : List Moment} {c : Connection} {r : Request}
    {target : Text} {ms : List Message} {b : BodyEnd} (hroute : Route.ofPath r.path = .exchange)
    (ht : r.target = .ok target) (hscript : script c run = .request r :: ms.map .message)
    (hread : Gathering.empty.readAll cap ms = .inr b) :
    ∃ now, (App.create cap).footprint c run =
      ⟨lineRecord r.method target :: (Exchange.conclude cap b).records (.awaiting r target),
        [(Exchange.conclude cap b).reply r now], [(Exchange.conclude cap b).count .zero]⟩ := by
  obtain ⟨m, moments, -, hmoments, hfoot⟩ := footprint_of_script cap hroute ht hscript
  have hmessages := alone_messages cap (.awaiting r target) hmoments
  rw [Exchange.awaiting_body, hread] at hmessages
  obtain ⟨now, hend⟩ := hmessages
  refine ⟨now, ?_⟩
  rw [hfoot, hend]
  rfl

/-- The end of an exchange shows the condition of its outcome. -/
theorem ended_shows (r : Request) (target : Text) (now : Int) {o : Outcome} {body : List Octet}
    (h : o.About body) :
    (Condition.ofOutcome o).Shows r.method target body
      ⟨lineRecord r.method target :: o.records (.awaiting r target), [o.reply r now],
        [o.count .zero]⟩ := by
  cases o with
  | ok size v =>
      obtain ⟨rfl, hparse⟩ := h
      simp only [Outcome.records, say_awaiting]
      exact ⟨v, hparse, rfl, rfl, rfl⟩
  | malformed size fault =>
      obtain ⟨rfl, hparse⟩ := h
      simp only [Outcome.records, say_awaiting]
      exact ⟨fault, hparse, rfl, rfl, refused_faultReply r fault now⟩
  | tooLarge fault =>
      simp only [Outcome.records, say_awaiting]
      exact ⟨rfl, rfl, refused_faultReply r fault now⟩
  | disconnected =>
      simp only [Outcome.records, say_awaiting]
      refine ⟨rfl, rfl, ?_⟩
      intro reply hreply
      rw [List.mem_singleton.mp hreply]
      rfl

/-- The condition that the messages tell is the one that shows. -/
theorem condition_shows (cap : Int) {run : List Moment} {c : Connection} {r : Request}
    {target : Text} {ms : List Message} (hreach : r.ReachesHandler) (ht : r.target = .ok target)
    (hscript : script c run = .request r :: ms.map .message) :
    (Condition.of cap ms).Shows r.method target (payload ms)
      ((App.create cap).footprint c run) := by
  rw [Condition.of]
  cases hread : Gathering.empty.readAll cap ms with
  | inl g =>
      rw [footprint_of_wait cap hreach.route ht hscript hread]
      exact ⟨rfl, rfl, rfl⟩
  | inr b =>
      obtain ⟨now, hend⟩ := footprint_of_end cap hreach.route ht hscript hread
      rw [hend]
      exact ended_shows r target now (conclude_about hread)

end JsonTap.Web
