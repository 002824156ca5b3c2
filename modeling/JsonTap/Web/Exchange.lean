import JsonTap.Log.Logger
import JsonTap.Metrics.Tally
import JsonTap.Payload
import JsonTap.Web.Body
import JsonTap.Web.Response

/-!
# Exchanges

An exchange begins with a request: the request line is logged, and the body is awaited. It ends in
one of four ways. The payload is read, and its value is logged; it is no strict JSON; the body is
too large; or the client is gone before the end of the body. `Outcome` is the way it ended, and
tells everything else: the records, what is counted, and the reply.

Each exchange runs in a task with blocks of its own. After the request line a block binds the method
and the target of the request, and it stays open while the exchange awaits its body.
-/

namespace JsonTap.Web

inductive Outcome where
  /-- A payload of so many octets was read. -/
  | ok (size : Nat) (value : Json.Value)
  | malformed (size : Nat) (fault : Fault)
  | tooLarge (fault : Fault)
  | disconnected

/-- An exchange that awaits its body. -/
structure Exchange where
  request : Request
  target : Text
  /-- The blocks that are open in its task. -/
  scope : Log.Scope
  body : Gathering

def exchangeLogger : Log.Logger := .get "payload_listener.web.app" []

namespace Exchange

def requestLine (method target : Text) : Text := method ++ Text.ofString " " ++ target

def opening (method target : Text) : Log.Record :=
  Log.say exchangeLogger [] Log.Level.info (requestLine method target)

def awaiting (r : Request) (target : Text) : Exchange where
  request := r
  target := target
  scope := Log.Scope.enter [] [("method", .str r.method), ("target", .str target)]
  body := .empty

/-- Begins an exchange, unless its target cannot be told. -/
def start (r : Request) : Except Utf8.Undecodable Exchange := do
  let target ← r.target
  .ok (awaiting r target)

/-- The outcome of a body that was read to its end. -/
def judge (g : Gathering) : Outcome :=
  match Payload.parse (Payload.text g.chunks) with
  | .ok v => .ok g.received v
  | .error f => .malformed g.received f

/-- The outcome of a body by how its reading ended. -/
def conclude (cap : Int) : BodyEnd → Outcome
  | .whole g => judge g
  | .tooLarge received => .tooLarge (.bodyTooLarge cap received)
  | .disconnected => .disconnected

/-- Reads one message: the exchange goes on, or ends. -/
def receive (cap : Int) (e : Exchange) (m : Message) : Exchange ⊕ Outcome :=
  match e.body.receive cap m with
  | .inl g => .inl { e with body := g }
  | .inr b => .inr (conclude cap b)

end Exchange

namespace Outcome

def malformedMessage (method target : Text) (f : Fault) : Text :=
  Text.ofString "Malformed JSON body for " ++ Exchange.requestLine method target ++
    Text.ofString ": " ++ f.message

def tooLargeMessage (method target : Text) : Text :=
  Text.ofString "Rejected oversized body for " ++ Exchange.requestLine method target

def records (e : Exchange) (o : Outcome) : List Log.Record :=
  let say := Log.say exchangeLogger e.scope
  match o with
  | .ok _ v => [say Log.Level.info "end", say Log.Level.info v.indented]
  | .malformed _ f =>
    [say Log.Level.info "end",
      say Log.Level.warning (malformedMessage e.request.method e.target f)]
  | .tooLarge _ => [say Log.Level.warning (tooLargeMessage e.request.method e.target)]
  | .disconnected => [say Log.Level.debug "Client disconnected before end of body"]

def count (t : Metrics.Tally) : Outcome → Metrics.Tally
  | .ok size _ => { t.addBody size with ok := t.ok + 1 }
  | .malformed size _ => { t.addBody size with malformed := t.malformed + 1 }
  | .tooLarge _ => { t with tooLarge := t.tooLarge + 1 }
  | .disconnected => { t with disconnected := t.disconnected + 1 }

def reply (r : Request) (now : Int) : Outcome → Reply
  | .ok _ _ => .sent .noContent
  | .malformed _ f => faultReply r f now
  | .tooLarge f => faultReply r f now
  | .disconnected => .nothing

end Outcome

end JsonTap.Web
