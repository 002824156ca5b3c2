import JsonTap.Text.Decimal

/-!
# The network

What the network answers when a host is looked up or a socket is opened. A `Network` says for each
host to which kinds of addresses its name leads, whether binding or listening fails there, and which
addresses are taken by others. It may say something else at another moment; a moment is the count of
the calls that the system has had, the one that is answered among them. Where any port will do, the
network picks one; it may pick another one each time.
-/

namespace JsonTap.Net

inductive Family where
  | inet
  | inet6
  deriving DecidableEq, Repr

structure Refusal where
  number : Int
  reason : Text
  deriving DecidableEq

def Refusal.message (r : Refusal) : Text :=
  Text.ofString "[Errno " ++ Text.ofInt r.number ++ Text.ofString "] " ++ r.reason

/-- The refusal of a name that leads nowhere. -/
def Refusal.unknownName : Refusal := ⟨-2, "Name or service not known"⟩

def Refusal.inUse : Refusal := ⟨98, "Address already in use"⟩

/-- What the network answers, at each moment and for each host. -/
structure Network where
  /-- The kinds of addresses that a host's name leads to, in order. -/
  resolve (moment : Nat) (host : Text) : Except Refusal (List Family)
  /-- Why a socket cannot be bound at a host, if so. -/
  bindRefusal (moment : Nat) (host : Text) : Option Refusal
  /-- Why a socket that is bound at a host cannot listen, if so. -/
  listenRefusal (moment : Nat) (host : Text) : Option Refusal
  /-- Whether somebody else has a host's port. -/
  isBusy (moment : Nat) (host : Text) (port : Int) : Bool
  /-- The port that is picked at a host, after `picked` others were picked. -/
  freePort (picked : Nat) (host : Text) : Int
  freePort_pos : ∀ picked host, 0 < freePort picked host

/-- What a numeric address leads to: one with a colon is of the newer kind, one of digits and dots
of the older. Anything else is a name, and unknown. -/
def resolveNumeric (host : Text) : Except Refusal (List Family) :=
  if host.contains ':' then .ok [.inet6]
  else if !host.isEmpty && host.all fun c => c.isDigit || c = '.' then .ok [.inet]
  else .error .unknownName

/-- A network on which only numeric addresses are known, and nothing is refused. Ports are picked in
turn. -/
def Network.plain : Network where
  resolve _ host := resolveNumeric host
  bindRefusal _ _ := none
  listenRefusal _ _ := none
  isBusy _ _ _ := false
  freePort picked _ := 40000 + picked
  freePort_pos _ _ := by omega

end JsonTap.Net
