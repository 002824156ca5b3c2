import JsonTap.Metrics.Tally
import Mathlib.Data.List.Basic

/-!
# Growth of the counts

What is counted only grows, and `Tally.since` is by how much. It is itself a tally, so that the
growth while one body is read is the tally of this body alone (`SizeHistogram.since_observe`). That
needs the bounds of the sizes to be those of the listener, which no size changes.
-/

namespace JsonTap.Metrics

namespace SizeHistogram

/-- The sizes that are in the second histogram and not in the first. -/
def since (before after : SizeHistogram) : SizeHistogram :=
  ⟨List.zipWith (fun x y => (y.1, y.2 - x.2)) before.buckets after.buckets,
    after.count - before.count, after.sum - before.sum⟩

/-- The bounds are those of the listener. -/
def HasBounds (h : SizeHistogram) : Prop := h.buckets.map (·.1) = sizeBounds

theorem hasBounds_empty : empty.HasBounds := rfl

/-- Observing a size keeps the bounds. -/
theorem HasBounds.observe {h : SizeHistogram} (hb : h.HasBounds) (size : Nat) :
    (h.observe size).HasBounds := by
  rw [HasBounds, SizeHistogram.observe, List.map_map]
  exact hb

theorem since_self {h : SizeHistogram} (hb : h.HasBounds) : h.since h = empty := by
  rw [since, List.zipWith_self, empty, ← hb, List.map_map]
  simp

/-- What one observation adds is the histogram of it alone. -/
theorem since_observe {h : SizeHistogram} (hb : h.HasBounds) (size : Nat) :
    h.since (h.observe size) = empty.observe size := by
  have hbuckets : List.zipWith (fun x y : Nat × Nat => (y.1, y.2 - x.2)) h.buckets
      (h.observe size).buckets =
      (h.buckets.map (·.1)).map fun b => (b, if size ≤ b then 1 else 0) := by
    rw [observe, List.zipWith_map_right, List.zipWith_self, List.map_map]
    apply List.map_congr_left
    intro x _
    by_cases hs : size ≤ x.1 <;> simp [hs]
  rw [since, hbuckets, hb]
  simp [empty, observe]

/-- The order in which sizes are counted does not matter. -/
theorem observe_comm (h : SizeHistogram) (m n : Nat) :
    (h.observe m).observe n = (h.observe n).observe m := by
  simp only [observe, List.map_map, SizeHistogram.mk.injEq, true_and]
  refine ⟨?_, Nat.add_right_comm _ _ _⟩
  apply List.map_congr_left
  intro x _
  by_cases hm : m ≤ x.1 <;> by_cases hn : n ≤ x.1 <;> simp [hm, hn]

end SizeHistogram

namespace Tally

/-- What is counted in the second tally and not in the first. -/
def since (before after : Tally) : Tally :=
  ⟨after.ok - before.ok, after.malformed - before.malformed, after.tooLarge - before.tooLarge,
    after.disconnected - before.disconnected, after.bodyOctets - before.bodyOctets,
    before.bodySizes.since after.bodySizes⟩

theorem since_self {t : Tally} (hb : t.bodySizes.HasBounds) : t.since t = zero := by
  simp [since, zero, SizeHistogram.since_self hb]

end Tally

end JsonTap.Metrics
