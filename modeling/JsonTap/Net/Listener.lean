import JsonTap.Fault
import JsonTap.Log.Record
import JsonTap.Net.System

/-!
# The listener

A listener binds one socket to each of its hosts and lets an HTTP server serve them. It keeps what
came of every attempt to bind until it is closed. An attempt that is refused is logged and kept; the
listener can serve if at least one attempt succeeded. When serving ends, however it ends, the
listener is closed.
-/

namespace JsonTap.Net

/-- What came of an attempt to bind a host. -/
structure Binding where
  host : Text
  /-- The port that is bound, or that could not be. -/
  port : Int
  /-- The kind of address, once the host has been looked up. -/
  family : Option Family
  /-- The number of the listening socket, or the refusal in words. -/
  outcome : Except Text Nat

namespace Binding

def address (b : Binding) : Text := b.host ++ Text.ofString ":" ++ Text.ofInt b.port

def socket? (b : Binding) : Option Nat := b.outcome.toOption

def refusal? (b : Binding) : Option Text :=
  match b.outcome with
  | .ok _ => none
  | .error e => some e

def isOk (b : Binding) : Bool := b.socket?.isSome

end Binding

inductive ServerMode where
  /-- It reports that it has started and runs until it is stopped. -/
  | run
  /-- It reports that it has started and returns. -/
  | ret
  /-- It runs until it is stopped and never reports anything. -/
  | neverStarts
  /-- It fails. -/
  | fail
  /-- It is interrupted. -/
  | interrupt
  deriving DecidableEq, Repr

/-- Why serving stopped short. -/
inductive ServeFault where
  | listener (f : Fault)
  /-- A host's name leads to no address at all. -/
  | noAddress
  /-- The metrics could not be offered, and no refusal of the system was the reason. -/
  | exporterFailed
  /-- The HTTP server failed. -/
  | failed
  /-- The program was interrupted. -/
  | interrupted

def ServeFault.message : ServeFault → Text
  | .listener f => f.message
  | .noAddress => "list index out of range"
  | .exporterFailed => "exporter failed"
  | .failed => "serve failed"
  | .interrupted => []

/-- An HTTP server: whether it has reported that it started, and whether it still runs. -/
structure HttpServer where
  started : Bool
  running : Bool
  deriving DecidableEq

/-- What became of the latest attempt to serve. -/
inductive Serving where
  | running
  | done
  | failed (e : ServeFault)

/-- A listener, with the system under it and the records it has logged. -/
structure Listener where
  port : Int
  hosts : List Text
  backlog : Int
  bindings : List Binding
  /-- The latest HTTP server. -/
  server : Option HttpServer
  /-- The latest attempt to serve. -/
  serving : Option Serving
  system : System
  records : List Log.Record

namespace Listener

def logger : Text := "payload_listener.server"

def usualPort : Int := 8888

def usualHosts : List Text := ["0.0.0.0", "::"]

def usualBacklog : Int := 128

def create (port : Int) (hosts : List Text) (backlog : Int) : Listener :=
  ⟨port, hosts, backlog, [], none, none, .initial, []⟩

/-- The numbers of the sockets, in the order in which they were bound. -/
def sockets (l : Listener) : List Nat := l.bindings.filterMap (·.socket?)

/-- Whether the latest HTTP server has reported that it started. -/
def started (l : Listener) : Bool := (l.server.map (·.started)).getD false

def log (l : Listener) (level : Log.Level) (message : Text) : Listener :=
  { l with records := l.records ++ [.note level logger message []] }

def call (l : Listener) (c : Call) : Listener := { l with system := l.system.note c }

/-! ### Binding -/

/-- An attempt to bind is kept and logged. -/
def keep (l : Listener) (b : Binding) : Listener :=
  let l := { l with bindings := l.bindings ++ [b] }
  match b.outcome with
  | .ok _ => l.log Log.Level.info (Text.ofString "server listening on " ++ b.address)
  | .error e =>
    l.log Log.Level.error
      (Text.ofString "Failed to bind " ++ b.address ++ Text.ofString ": " ++ e)

/-- Binds a host. The first address that its name leads to counts; nothing is kept if there is
none. -/
def bind (net : Network) (l : Listener) (host : Text) : Listener × Option Binding :=
  let l := l.call (.resolve host l.port true true)
  match net.resolve l.system.moment host with
  | .error r =>
    let b : Binding := ⟨host, l.port, none, .error r.message⟩
    (l.keep b, some b)
  | .ok [] => (l, none)
  | .ok (family :: _) =>
    match l.system.openListening net family host l.port l.backlog with
    | (s, .error r) =>
      let b : Binding := ⟨host, l.port, some family, .error r.message⟩
      (keep { l with system := s } b, some b)
    | (s, .ok (n, port)) =>
      let b : Binding := ⟨host, port, some family, .ok n⟩
      (keep { l with system := s } b, some b)

/-- Binds hosts in order, until one has no address. -/
def bindEach (net : Network) (l : Listener) :
    List Text → Listener × Except ServeFault (List Binding)
  | [] => (l, .ok [])
  | h :: hs =>
    match l.bind net h with
    | (l, none) => (l, .error .noAddress)
    | (l, some b) =>
      match bindEach net l hs with
      | (l, .error e) => (l, .error e)
      | (l, .ok bs) => (l, .ok (b :: bs))

/-- The fault of a listener for which all attempts were refused. -/
def unbound (port : Int) (bs : List Binding) : Fault :=
  ⟨.bind,
    Text.ofString "Could not bind port " ++ Text.ofInt port ++ Text.ofString " on any address",
    Named.ofPairs (bs.map fun b => (b.host, (b.refusal?.map Datum.str).getD .null))⟩

/-- Binds every host of the listener, of which at least one must succeed. -/
def bindAll (net : Network) (l : Listener) : Listener × Except ServeFault (List Binding) :=
  match l.bindEach net l.hosts with
  | (l, .error e) => (l, .error e)
  | (l, .ok bs) =>
    if bs.any (·.isOk) then (l, .ok bs) else (l, .error (.listener (unbound l.port bs)))

/-- Closes all sockets and forgets the attempts to bind. -/
def close (l : Listener) : Listener :=
  { l with bindings := [], system := l.sockets.foldl System.close l.system }

/-! ### Serving -/

/-- The options of the HTTP server: it logs nothing but warnings, and adds no headers of its own. -/
def serverOptions : Fields :=
  [("access_log", .bool false), ("date_header", .bool false), ("lifespan", .str "off"),
    ("log_config", .null), ("log_level", .str "warning"), ("server_header", .bool false)]

/-- Binds the hosts unless there are sockets. -/
def ensureBound (net : Network) (l : Listener) : Listener × Option ServeFault :=
  if l.sockets.isEmpty then
    match l.bindAll net with
    | (l, .error e) => (l, some e)
    | (l, .ok _) => (l, none)
  else (l, none)

/-- The HTTP server takes the sockets over. -/
def handOver (l : Listener) (mode : ServerMode) : Listener :=
  let l := (l.call (.configure serverOptions)).call (.serve l.sockets)
  match mode with
  | .run => { l with server := some ⟨true, true⟩, serving := some .running }
  | .neverStarts => { l with server := some ⟨false, true⟩, serving := some .running }
  | .ret => { (l.call .served).close with server := some ⟨true, false⟩, serving := some .done }
  | .fail => { l.close with server := some ⟨false, false⟩, serving := some (.failed .failed) }
  | .interrupt =>
    { l.close with server := some ⟨false, false⟩, serving := some (.failed .interrupted) }

/-- Serves. If no host can be bound, the former HTTP server stays the latest. -/
def serve (net : Network) (mode : ServerMode) (l : Listener) : Listener :=
  match l.ensureBound net with
  | (l, some e) => { l with serving := some (.failed e) }
  | (l, none) => l.handOver mode

def stop (l : Listener) : Listener :=
  match l.server with
  | some ⟨started, true⟩ =>
    let l := { (l.call .served).close with server := some ⟨started, false⟩ }
    match l.serving with
    | some .running => { l with serving := some .done }
    | _ => l
  | _ => l

/-- The wait for the start has been in vain. -/
def waitMessage : Text := "listener did not start"

/-! ### Operations -/

inductive Request where
  | bind (host : Text)
  | bindAll
  | setPort (port : Int)
  | serve (mode : ServerMode)
  /-- Waits until the latest HTTP server has started; whether it does is known at once. -/
  | waitStarted
  /-- Starts to wait, then serves; `patient` unless the wait is over before it has begun. -/
  | waitThenServe (patient : Bool)
  | stop
  | close
  | look

inductive Answer where
  | nothing
  | bound (b : Binding)
  | allBound (bs : List Binding)
  | failed (e : ServeFault)
  /-- The listener did not start in time. -/
  | late

def perform (net : Network) (l : Listener) : Request → Listener × Answer
  | .bind host =>
    match l.bind net host with
    | (l, some b) => (l, .bound b)
    | (l, none) => (l, .failed .noAddress)
  | .bindAll =>
    match l.bindAll net with
    | (l, .ok bs) => (l, .allBound bs)
    | (l, .error e) => (l, .failed e)
  | .setPort port => ({ l with port := port }, .nothing)
  | .serve mode => (l.serve net mode, .nothing)
  | .waitStarted => (l, if l.started then .nothing else .late)
  | .waitThenServe patient =>
    let after := l.serve net .run
    (after, if l.started || (patient && after.started) then .nothing else .late)
  | .stop => (l.stop, .nothing)
  | .close => (l.close, .nothing)
  | .look => (l, .nothing)

def performAll (net : Network) (l : Listener) (rs : List Request) : Listener :=
  rs.foldl (fun l r => (l.perform net r).1) l

end Listener

end JsonTap.Net
