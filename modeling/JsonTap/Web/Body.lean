import JsonTap.Fault

/-!
# Bodies of requests

A body comes in messages, each with a chunk and a word whether more follows; a message may also say
that the client is gone. `Gathering.receive` takes one message. A body above the cap is refused as
soon as this is noticed, before the end of the body and before anything else; a cap of zero means
that there is none. Empty chunks are not kept.
-/

namespace JsonTap.Web

inductive Message where
  | chunk (octets : List Octet) (more : Bool)
  | disconnect
  deriving DecidableEq

/-- The chunks of a body so far, and the count of their octets. -/
structure Gathering where
  chunks : List (List Octet)
  received : Nat
  deriving DecidableEq

namespace Gathering

def empty : Gathering := ⟨[], 0⟩

/-- The chunks with one more, unless it is empty. -/
def add (g : Gathering) (octets : List Octet) : Gathering :=
  if octets.isEmpty then g else ⟨g.chunks ++ [octets], g.received + octets.length⟩

end Gathering

inductive BodyEnd where
  | whole (g : Gathering)
  /-- The cap was exceeded when so many octets had come. -/
  | tooLarge (received : Nat)
  | disconnected
  deriving DecidableEq

def exceeds (cap : Int) (received : Nat) : Bool := cap != 0 && cap < (received : Int)

/-- Reads one message: the body goes on, or ends. -/
def Gathering.receive (cap : Int) (g : Gathering) (m : Message) : Gathering ⊕ BodyEnd :=
  match m with
  | .disconnect => .inr .disconnected
  | .chunk octets more =>
    let g' := g.add octets
    if !octets.isEmpty && exceeds cap g'.received then .inr (.tooLarge g'.received)
    else if more then .inl g' else .inr (.whole g')

/-- Reads messages until the body ends, and tells which are left. A body whose messages run out
belongs to a client that is gone. -/
def readBodyFrom (cap : Int) (g : Gathering) : List Message → BodyEnd × List Message
  | [] => (.disconnected, [])
  | m :: ms =>
    match g.receive cap m with
    | .inr e => (e, ms)
    | .inl g => readBodyFrom cap g ms

def readBody (cap : Int) (ms : List Message) : BodyEnd × List Message :=
  readBodyFrom cap .empty ms

end JsonTap.Web
