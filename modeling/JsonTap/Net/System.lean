import JsonTap.Datum.Basic
import JsonTap.Net.Network

/-!
# Sockets

The system keeps the open sockets and notes every call that is made to it. A socket is made, bound,
set to listen and closed; when binding or listening fails it stays open until it is closed. At port
zero it is bound to a port that the network picks.
-/

namespace JsonTap.Net

structure Socket where
  number : Nat
  family : Family
  /-- The host and port it is bound to. -/
  bound : Option (Text × Int)
  listening : Bool
  deriving DecidableEq

inductive Call where
  /-- A host is looked up, for streams, to listen on. -/
  | resolve (host : Text) (port : Int) (stream passive : Bool)
  | create (socket : Nat) (family : Family)
  /-- The address may be used again at once. -/
  | reuseAddress (socket : Nat)
  /-- The socket does not take the addresses of the older kind. -/
  | newerOnly (socket : Nat)
  | bind (socket : Nat) (host : Text) (port : Int)
  | listen (socket : Nat) (backlog : Int)
  /-- Calls on the socket return at once. -/
  | nonBlocking (socket : Nat)
  | close (socket : Nat)
  /-- The HTTP server is made, with options. -/
  | configure (options : Fields)
  /-- The HTTP server starts on sockets. -/
  | serve (sockets : List Nat)
  /-- The HTTP server has returned. -/
  | served
  /-- The metrics are offered at a host and port. -/
  | exporter (port : Int) (host : Text)

/-- The system: open sockets, and what was asked of it. -/
structure System where
  opened : List Socket
  /-- How many sockets have been made. -/
  created : Nat
  /-- How many ports the network has picked. -/
  picked : Nat
  calls : List Call

namespace System

def initial : System := ⟨[], 0, 0, []⟩

def openNumbers (s : System) : List Nat := s.opened.map (·.number)

/-- Whether an open socket is bound to a host and port. -/
def holds (s : System) (host : Text) (port : Int) : Bool :=
  s.opened.any (·.bound == some (host, port))

def note (s : System) (c : Call) : System := { s with calls := s.calls ++ [c] }

def moment (s : System) : Nat := s.calls.length

def change (s : System) (n : Nat) (f : Socket → Socket) : System :=
  { s with opened := s.opened.map fun x => if x.number = n then f x else x }

def create (s : System) (family : Family) : System × Nat :=
  let n := s.created + 1
  let socket : Socket := ⟨n, family, none, false⟩
  let s := { s with opened := s.opened ++ [socket], created := n }
  (s.note (.create n family), n)

def close (s : System) (n : Nat) : System :=
  let s := { s with opened := s.opened.filter (·.number ≠ n) }
  s.note (.close n)

/-- Binds a socket; the port it is bound to is returned. -/
def bind (net : Network) (s : System) (n : Nat) (host : Text) (port : Int) :
    System × Except Refusal Int :=
  let s := s.note (.bind n host port)
  match net.bindRefusal s.moment host with
  | some r => (s, .error r)
  | none =>
    let actual := if port = 0 then net.freePort s.picked host else port
    let s := if port = 0 then { s with picked := s.picked + 1 } else s
    if s.holds host actual || net.isBusy s.moment host actual then (s, .error .inUse)
    else (s.change n fun x => { x with bound := some (host, actual) }, .ok actual)

/-- Sets a socket that is bound at a host to listen. -/
def listen (net : Network) (s : System) (n : Nat) (host : Text) (backlog : Int) :
    System × Option Refusal :=
  let s := s.note (.listen n backlog)
  match net.listenRefusal s.moment host with
  | some r => (s, some r)
  | none => (s.change n fun x => { x with listening := true }, none)

/-- A socket of a family, with its options set. -/
def prepare (s : System) (family : Family) : System × Nat :=
  let (s, n) := s.create family
  let s := s.note (.reuseAddress n)
  match family with
  | .inet => (s, n)
  | .inet6 => (s.note (.newerOnly n), n)

/-- Opens a listening socket: its number, and the port it is bound to. If that fails, the socket is
closed again. -/
def openListening (net : Network) (s : System) (family : Family) (host : Text)
    (port backlog : Int) : System × Except Refusal (Nat × Int) :=
  let (s, n) := s.prepare family
  match s.bind net n host port with
  | (s, .error r) => (s.close n, .error r)
  | (s, .ok actual) =>
    match s.listen net n host backlog with
    | (s, some r) => (s.close n, .error r)
    | (s, none) => (s.note (.nonBlocking n), .ok (n, actual))

end System

end JsonTap.Net
