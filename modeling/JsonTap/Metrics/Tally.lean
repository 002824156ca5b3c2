import JsonTap.Text.Basic

/-!
# What the listener counts

How many requests ended in which way, how many octets their bodies had, and how large the bodies
were. Only bodies that were read to their end have a size.
-/

namespace JsonTap.Metrics

/-- Sizes of bodies: how many are at most a bound, how many there are, and their sum. -/
structure SizeHistogram where
  /-- The bounds, each with the count of sizes that are not above it. -/
  buckets : List (Nat × Nat)
  count : Nat
  sum : Nat
  deriving DecidableEq

def sizeBounds : List Nat := [64, 256, 1024, 4096, 16384, 65536, 262144, 1048576]

namespace SizeHistogram

def empty : SizeHistogram := ⟨sizeBounds.map fun b => (b, 0), 0, 0⟩

def observe (h : SizeHistogram) (size : Nat) : SizeHistogram :=
  ⟨h.buckets.map fun (b, n) => (b, if size ≤ b then n + 1 else n), h.count + 1, h.sum + size⟩

end SizeHistogram

structure Tally where
  ok : Nat
  malformed : Nat
  tooLarge : Nat
  disconnected : Nat
  bodyOctets : Nat
  bodySizes : SizeHistogram
  deriving DecidableEq

namespace Tally

def zero : Tally := ⟨0, 0, 0, 0, 0, .empty⟩

/-- A body that was read to its end. -/
def addBody (t : Tally) (size : Nat) : Tally :=
  { t with bodyOctets := t.bodyOctets + size, bodySizes := t.bodySizes.observe size }

end Tally

end JsonTap.Metrics
