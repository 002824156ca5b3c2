import JsonTap.Metrics.Tally
import Mathlib.Data.List.Perm.Basic

/-!
# Histograms of sizes

`SizeHistogram.Shows` says what a histogram holds of the sizes that it has seen: how many there are,
how much they are together, and for each bound how many are not above it. Every size that is
observed keeps this up (`Shows.observe`), whatever has been seen before. A count at a bound is never
more than the one at a greater bound (`Shows.cumulative`), for a size that is not above the one is
not above the other.
-/

namespace JsonTap.Metrics

def total (sizes : List Nat) : Nat := sizes.foldr (· + ·) 0

theorem total_cons (size : Nat) (sizes : List Nat) :
    total (size :: sizes) = size + total sizes := rfl

/-- The total of two parts is that of both. -/
theorem total_append (xs ys : List Nat) : total (xs ++ ys) = total xs + total ys := by
  induction xs with
  | nil => simp [total]
  | cons x xs ih => rw [List.cons_append, total_cons, total_cons, ih, Nat.add_assoc]

namespace SizeHistogram

/-- What a histogram holds of sizes. -/
structure Shows (h : SizeHistogram) (sizes : List Nat) : Prop where
  buckets : h.buckets = sizeBounds.map fun b => (b, sizes.countP (· ≤ b))
  count : h.count = sizes.length
  sum : h.sum = total sizes

/-- A size that is observed is one more of those that are shown. -/
theorem Shows.observe {h : SizeHistogram} {sizes : List Nat} (hs : h.Shows sizes) (size : Nat) :
    (h.observe size).Shows (sizes ++ [size]) := by
  refine ⟨?_, ?_, ?_⟩
  · show h.buckets.map _ = _
    rw [hs.buckets, List.map_map]
    apply List.map_congr_left
    intro b _
    by_cases hb : size ≤ b <;> simp [hb]
  · show h.count + 1 = _
    rw [hs.count, List.length_append, List.length_singleton]
  · show h.sum + size = _
    rw [hs.sum, total_append]
    rfl

theorem sizeBounds_sorted : sizeBounds.Pairwise (· ≤ ·) := by
  decide

/-- The counts never decrease from one bound to the next, and no bound has more than there are. -/
theorem Shows.cumulative {h : SizeHistogram} {sizes : List Nat} (hs : h.Shows sizes) :
    (h.buckets.map (·.2) ++ [h.count]).Pairwise (· ≤ ·) := by
  rw [hs.buckets, hs.count, List.map_map, List.pairwise_append]
  refine ⟨?_, List.pairwise_singleton _ _, ?_⟩
  · rw [List.pairwise_map]
    apply sizeBounds_sorted.imp
    intro a b hab
    apply List.countP_mono_left
    intro size _ hsize
    simp only [decide_eq_true_eq] at hsize ⊢
    exact Nat.le_trans hsize hab
  · intro n hn m hm
    obtain ⟨b, -, rfl⟩ := List.mem_map.mp hn
    rw [List.mem_singleton.mp hm]
    exact List.countP_le_length

end SizeHistogram

end JsonTap.Metrics
