import JsonTap.Web.Exchange
import JsonTap.Web.Route

/-!
# The application

The application holds the exchanges that await their bodies, each under the number of its
connection, and what has been counted. A step handles one event: a request, or a message about the
body of a request. Exchanges do not see each other; only the counts are common to all.
-/

namespace JsonTap.Web

abbrev Connection := Int

inductive Event where
  | request (r : Request)
  | message (m : Message)

/-- The application. -/
structure App where
  /-- The greatest size of a body; zero means that there is none. -/
  cap : Int
  waiting : List (Connection × Exchange)
  tally : Metrics.Tally

/-- What a step does that can be seen outside. -/
structure Report where
  records : List Log.Record
  replies : List (Connection × Reply)

namespace Report

def none : Report := ⟨[], []⟩

def append (a b : Report) : Report := ⟨a.records ++ b.records, a.replies ++ b.replies⟩

end Report

namespace App

def create (cap : Int) : App := ⟨cap, [], .zero⟩

def exchange? (a : App) (c : Connection) : Option Exchange := a.waiting.lookup c

def drop (a : App) (c : Connection) : App := { a with waiting := a.waiting.filter (·.1 ≠ c) }

def set (a : App) (c : Connection) (e : Exchange) : App :=
  { a with waiting := (c, e) :: a.waiting.filter (·.1 ≠ c) }

def accept (a : App) (c : Connection) (r : Request) : App × Report :=
  match Route.ofPath r.path with
  | .notFound => (a.drop c, ⟨[], [(c, .sent .notFound)]⟩)
  | .redirect path => (a.drop c, ⟨[], [(c, redirectReply r path)]⟩)
  | .exchange =>
    match Exchange.start r with
    | .error u => (a.drop c, ⟨[], [(c, .failed (.undecodable u))]⟩)
    | .ok e => (a.set c e, ⟨[Exchange.opening r.method e.target], []⟩)

def finish (a : App) (now : Int) (c : Connection) (e : Exchange) (o : Outcome) : App × Report :=
  ({ a.drop c with tally := o.count a.tally },
    ⟨o.records e, [(c, o.reply e.request now)]⟩)

/-- Handles a message about a body. Where no exchange awaits it, nothing happens. -/
def receive (a : App) (now : Int) (c : Connection) (m : Message) : App × Report :=
  match a.exchange? c with
  | none => (a, .none)
  | some e =>
    match e.receive a.cap m with
    | .inl e => (a.set c e, .none)
    | .inr o => a.finish now c e o

/-- Handles one event on a connection, at a time in microseconds since the epoch. -/
def step (a : App) (now : Int) (c : Connection) : Event → App × Report
  | .request r => a.accept c r
  | .message m => a.receive now c m

/-- Handles events on a connection, one after the other. -/
def run (a : App) (now : Int) (c : Connection) : List Event → App × Report
  | [] => (a, .none)
  | e :: es =>
    let (a, first) := a.step now c e
    let (a, later) := run a now c es
    (a, first.append later)

/-- The events of a request that is fed at once. A client whose messages run out is gone. -/
def fed (r : Request) (ms : List Message) : List Event :=
  .request r :: (ms.map .message ++ [.message .disconnect])

end App

end JsonTap.Web
