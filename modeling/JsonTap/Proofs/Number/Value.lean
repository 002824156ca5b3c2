import JsonTap.Proofs.Number.Rounding
import Mathlib.Algebra.Order.Field.Basic
import Mathlib.Algebra.Order.Floor.Semifield
import Mathlib.Data.Rat.Floor
import Mathlib.Tactic.Linarith

/-!
# Binary64 numbers as rationals

`Double.value` is the rational that a finite number is. A decimal is read as a finite number that no
other one is nearer to than it (`isNearest_ofDecimal`), and a multiplication by a power of two is
exact unless it overflows (`exists_units_mul_pow`).
-/

namespace JsonTap.Double

/-- The rational that a finite number is; zero for the others. -/
def value (x : Double) : ℚ := x.scaled / unitsPerOne

/-- No finite number is nearer to the rational. -/
structure IsNearest (x : Double) (q : ℚ) : Prop where
  finite : x.isFinite = true
  near : ∀ y : Double, y.isFinite = true → |q - x.value| ≤ |q - y.value|

theorem unitsPerOne_rat_pos : (0 : ℚ) < unitsPerOne := Nat.cast_pos.mpr unitsPerOne_pos

theorem value_signed_false (c : Fin (infinityCode + 1)) :
    (signed false c).value = units c.val / unitsPerOne := rfl

/-! ## Distances -/

theorem gap_eq_abs (n d u : Nat) : (gap n d u : ℚ) = |(n : ℚ) - u * d| := by
  unfold gap
  rcases Nat.le_total (u * d) n with h | h
  · have hzero : u * d - n = 0 := Nat.sub_eq_zero_of_le h
    rw [hzero, Nat.zero_add, Nat.cast_sub h, Nat.cast_mul, abs_of_nonneg]
    rw [sub_nonneg]
    exact_mod_cast h
  · have hzero : n - u * d = 0 := Nat.sub_eq_zero_of_le h
    rw [hzero, Nat.add_zero, Nat.cast_sub h, Nat.cast_mul, abs_sub_comm, abs_of_nonneg]
    rw [sub_nonneg]
    exact_mod_cast h

/-- How far a ratio is from a magnitude. -/
theorem abs_sub_units (num : Nat) {den : Nat} (hden : 0 < den) (c : Nat) :
    |(num : ℚ) / den - units c / unitsPerOne| =
      gap (num * unitsPerOne) den (units c) / (den * unitsPerOne) := by
  have hd : (0 : ℚ) < den := Nat.cast_pos.mpr hden
  have hu := unitsPerOne_rat_pos
  have hsub : (num : ℚ) / den - units c / unitsPerOne =
      (num * unitsPerOne - units c * den) / (den * unitsPerOne) := by
    rw [div_sub_div _ _ hd.ne' hu.ne', mul_comm (den : ℚ) (units c)]
  rw [hsub, abs_div, abs_of_pos (mul_pos hd hu), gap_eq_abs, Nat.cast_mul]

theorem Nearest.isNearest {num den : Nat} (hden : 0 < den) {c : Fin (infinityCode + 1)}
    (h : Nearest num den c.val) (hfinite : c.val < infinityCode) :
    (signed false c).IsNearest (num / den) := by
  refine ⟨decide_eq_true hfinite, ?_⟩
  intro y hy
  have hscale : (0 : ℚ) ≤ den * unitsPerOne := mul_nonneg (Nat.cast_nonneg _) (Nat.cast_nonneg _)
  cases y with
  | nan => cases hy
  | signed negative d =>
    have hmagnitude : |(num : ℚ) / den - (signed false c).value| ≤
        |(num : ℚ) / den - units d.val / unitsPerOne| := by
      rw [value_signed_false, abs_sub_units num hden, abs_sub_units num hden]
      exact div_le_div_of_nonneg_right (Nat.cast_le.mpr (h.near d.val)) hscale
    cases negative with
    | false => exact hmagnitude
    | true =>
      -- below zero the distance is greater still
      refine hmagnitude.trans ?_
      have hvalue : (signed true d).value = -(units d.val / unitsPerOne) := by
        show ((-(units d.val : Int) : Int) : ℚ) / unitsPerOne = _
        rw [Int.cast_neg, neg_div]
        rfl
      have hq : (0 : ℚ) ≤ num / den := div_nonneg (Nat.cast_nonneg _) (Nat.cast_nonneg _)
      have hm : (0 : ℚ) ≤ units d.val / unitsPerOne :=
        div_nonneg (Nat.cast_nonneg _) (Nat.cast_nonneg _)
      rw [hvalue, sub_neg_eq_add, abs_of_nonneg (add_nonneg hq hm)]
      rw [abs_le]
      constructor <;> linarith

theorem lt_of_clamp_lt {code : Nat} (h : (clamp code).val < infinityCode) :
    code < infinityCode := by
  by_contra hle
  rw [clamp_of_le (Nat.le_of_not_lt hle)] at h
  exact absurd h (by decide)

/-- A ratio that does not overflow is rounded to a nearest number. -/
theorem isNearest_ofRatio {num den : Nat} (hden : 0 < den)
    (h : (ofRatio false num den).isFinite = true) :
    (ofRatio false num den).IsNearest (num / den) := by
  have hcode : (clamp (roundRatio num den)).val < infinityCode := of_decide_eq_true h
  have hround : (clamp (roundRatio num den)).val = roundRatio num den :=
    clamp_of_lt (lt_of_clamp_lt hcode)
  apply Nearest.isNearest hden _ hcode
  rw [hround]
  exact roundRatio_nearest num hden

theorem mul_zpow_eq_div (n : Nat) (x : Int) :
    (n : ℚ) * 10 ^ x = ((n * 10 ^ x.toNat : Nat) : ℚ) / ((10 ^ (-x).toNat : Nat) : ℚ) := by
  cases x with
  | ofNat e => simp
  | negSucc e =>
    rw [Int.neg_negSucc, zpow_negSucc]
    simp [div_eq_mul_inv]

/-- A decimal that does not overflow is read as a nearest number. -/
theorem isNearest_ofDecimal {digits : Nat} {exponent : Int}
    (h : (ofDecimal false digits exponent).isFinite = true) :
    (ofDecimal false digits exponent).IsNearest (digits * 10 ^ exponent) := by
  rw [ofDecimal_eq] at h ⊢
  rw [mul_zpow_eq_div]
  have hden : 0 < 10 ^ (-exponent).toNat := pow_pos (by decide) _
  exact isNearest_ofRatio hden h

/-- A finite number below the rational is not above the nearest one. -/
theorem IsNearest.le_value {x y : Double} {q : ℚ} (h : x.IsNearest q) (hy : y.isFinite = true)
    (hle : y.value ≤ q) : y.value ≤ x.value := by
  by_contra hlt
  have hnear := h.near y hy
  rw [abs_of_nonneg (by linarith), abs_of_nonneg (by linarith)] at hnear
  linarith

/-! ## Powers of two -/

theorem exists_units_mul_two (c : Nat) : ∃ c', units c' = units c * 2 := by
  obtain ⟨k, m, rfl, hm, h⟩ := exists_shift c
  rw [units_add hm.le h]
  rcases h with hlarge | rfl
  · refine ⟨(k + 1) * binade + m, ?_⟩
    rw [units_add hm.le (.inl hlarge), pow_succ, mul_assoc]
  · by_cases hlow : m < binade
    · refine ⟨0 * binade + m * 2, ?_⟩
      rw [units_add (by omega) (.inr rfl), pow_zero]
      omega
    · refine ⟨1 * binade + m, ?_⟩
      rw [units_add hm.le (.inl (Nat.le_of_not_lt hlow))]
      omega

/-- A magnitude times a power of two is a magnitude. -/
theorem exists_units_mul_pow (c k : Nat) : ∃ c', units c' = units c * 2 ^ k := by
  induction k with
  | zero => exact ⟨c, (Nat.mul_one _).symm⟩
  | succ k ih =>
    obtain ⟨d, hd⟩ := ih
    obtain ⟨c', hc'⟩ := exists_units_mul_two d
    exact ⟨c', by rw [hc', hd, pow_succ, mul_assoc]⟩

theorem not_isFinite_infinity (negative : Bool) :
    (signed negative (clamp infinityCode)).isFinite = false := by
  have hcode : (clamp infinityCode).val = infinityCode := by decide
  rw [isFinite, hcode]
  exact decide_eq_false (Nat.lt_irrefl _)

/-- Only a finite number has a finite product with another one. -/
theorem isFinite_of_mul {x y : Double} (h : (x.mul y).isFinite = true) : x.isFinite = true := by
  cases x with
  | nan => cases y <;> cases h
  | signed s a =>
    cases y with
    | nan => cases h
    | signed t b =>
      by_contra hinfinite
      have ha : a.val = infinityCode := by
        have hle := Nat.lt_succ_iff.mp a.isLt
        have hge : ¬ a.val < infinityCode := fun hlt => hinfinite (decide_eq_true hlt)
        omega
      have hx : (signed s a).isInfinite = true := decide_eq_true ha
      unfold mul at h
      dsimp only at h
      rw [hx, Bool.true_or, if_pos rfl] at h
      split at h
      · cases h
      · rw [not_isFinite_infinity] at h
        cases h

theorem isInfinite_of_isFinite {x : Double} (h : x.isFinite = true) : x.isInfinite = false := by
  cases x with
  | nan => rfl
  | signed s c =>
    have hlt : c.val < infinityCode := of_decide_eq_true h
    exact decide_eq_false (Nat.ne_of_lt hlt)

/-- A product with a power of two is exact, unless it overflows. -/
theorem mul_pow_eq {a b : Fin (infinityCode + 1)} {k c : Nat}
    (hb : units b.val = 2 ^ k * unitsPerOne) (hbfinite : (signed false b).isFinite = true)
    (hafinite : (signed false a).isFinite = true) (hc : units c = units a.val * 2 ^ k) :
    (signed false a).mul (signed false b) = signed false (clamp c) := by
  have hinfinite : ¬ ((signed false a).isInfinite || (signed false b).isInfinite) = true := by
    rw [isInfinite_of_isFinite hafinite, isInfinite_of_isFinite hbfinite]
    decide
  have hround : roundRatio (units a.val * units b.val) (unitsPerOne * unitsPerOne) = c := by
    rw [← roundRatio_units c]
    apply roundRatio_congr (Nat.mul_pos unitsPerOne_pos unitsPerOne_pos) unitsPerOne_pos
    rw [hb, hc]
    ring
  unfold mul
  dsimp only
  rw [if_neg hinfinite, ofRatio, hround]
  rfl

/-- A product with a power of two that does not overflow is cut to the greatest whole number that is
not above it. -/
theorem truncate_mul_pow {a b : Fin (infinityCode + 1)} {k : Nat}
    (hb : units b.val = 2 ^ k * unitsPerOne) (hfinite : (signed false b).isFinite = true)
    (h : ((signed false a).mul (signed false b)).isFinite = true) :
    ((signed false a).mul (signed false b)).truncate = ⌊(signed false a).value * 2 ^ k⌋₊ := by
  obtain ⟨c, hc⟩ := exists_units_mul_pow a.val k
  have hmul := mul_pow_eq hb hfinite (isFinite_of_mul h) hc
  rw [hmul] at h ⊢
  have hcode : c < infinityCode := lt_of_clamp_lt (of_decide_eq_true h)
  have hquotient : (units a.val : ℚ) / unitsPerOne * 2 ^ k =
      ((units a.val * 2 ^ k : Nat) : ℚ) / (unitsPerOne : Nat) := by
    rw [Nat.cast_mul, Nat.cast_pow, Nat.cast_ofNat, div_mul_eq_mul_div]
  show ((units (clamp c).val : Int)).tdiv unitsPerOne = _
  rw [clamp_of_lt hcode, hc, value_signed_false, hquotient, Nat.floor_div_eq_div,
    ← Int.ofNat_tdiv]

/-- The inverse of a power of two is a number, if it is not too small. -/
theorem exists_value_mul_pow_eq_one {k : Nat} (hk : k ≤ 1022) :
    ∃ y : Double, y.isFinite = true ∧ y.value * 2 ^ k = 1 := by
  obtain ⟨code, hunits, hcode⟩ : ∃ code, units code = 2 ^ (1074 - k) ∧ code < infinityCode := by
    have hb : binade = 2 ^ 52 := by decide
    refine ⟨(1022 - k) * binade + binade, ?_, ?_⟩
    · rw [units_add (by omega) (.inl (Nat.le_refl _)), hb, ← pow_add]
      congr 1
      omega
    · have hle : (1022 - k) * binade ≤ 1022 * binade := Nat.mul_le_mul_right _ (Nat.sub_le _ _)
      have hbound : 1022 * binade + binade < infinityCode := by decide
      omega
  have hclamp := clamp_of_lt hcode
  have hfinite : (clamp code).val < infinityCode := by rwa [hclamp]
  refine ⟨.signed false (clamp code), decide_eq_true hfinite, ?_⟩
  have hpow : (2 : ℚ) ^ (1074 - k) * 2 ^ k = 2 ^ 1074 := by
    rw [← pow_add, Nat.sub_add_cancel (by omega)]
  rw [value_signed_false, hclamp, hunits, unitsPerOne_eq, Nat.cast_pow, Nat.cast_pow,
    Nat.cast_ofNat, div_mul_eq_mul_div, hpow]
  exact div_self (pow_ne_zero _ two_ne_zero)

end JsonTap.Double
