import JsonTap.Proofs.Number.Value

/-!
# Whole numbers in binary64

A whole number is rounded to 53 significant binary digits (`rounded`, `units_roundRatio_one`). It
stays as it is exactly if it has no more of them (`rounded_eq_self_iff`), and what it is rounded to
is finite below `2 ^ 1024`. A product with a power of two rounds no further, so that it is the power
times the rounded number unless it overflows (`isFinite_whole_mul_iff`, `truncate_whole_mul`).
-/

namespace JsonTap.Double

/-- The nearest number with 53 significant binary digits; of two the one whose last digit is
zero. -/
def rounded (n : Nat) : Nat := roundHalfEven n (2 ^ (n.log2 - 52)) * 2 ^ (n.log2 - 52)

/-- The number has 53 significant binary digits at most. -/
def FitsSignificand (n : Nat) : Prop := ∃ m k, m < 2 ^ 53 ∧ n = m * 2 ^ k

theorem fitsSignificand_of_le {n : Nat} (h : n ≤ 2 ^ 53) : FitsSignificand n := by
  rcases Nat.lt_or_eq_of_le h with hlt | rfl
  · exact ⟨n, 0, hlt, (Nat.mul_one n).symm⟩
  · exact ⟨2 ^ 52, 1, by decide, rfl⟩

theorem two_mul_binade : 2 * binade = 2 ^ 53 := by decide

/-- The digits that are kept are 53, unless there are fewer. -/
theorem rounded_shift (n : Nat) :
    n < 2 * binade * 2 ^ (n.log2 - 52) ∧
      (n.log2 - 52 = 0 ∨ binade * 2 ^ (n.log2 - 52) ≤ n) := by
  have h := shift_bounds n one_pos
  rwa [Nat.div_one, one_mul] at h

/-! ## Rounding -/

/-- A number that fits is a magnitude. -/
theorem FitsSignificand.units_roundRatio {n : Nat} (h : FitsSignificand n) :
    units (roundRatio n 1) = n * unitsPerOne := by
  obtain ⟨m, k, hm, rfl⟩ := h
  have hself : units (0 * binade + m) = m * 2 ^ 0 :=
    units_add (two_mul_binade ▸ hm.le) (.inr rfl)
  obtain ⟨c, hc⟩ := exists_units_mul_pow (0 * binade + m) (k + 1074)
  have hunits : units c = m * 2 ^ k * unitsPerOne := by
    rw [hc, hself, unitsPerOne_eq, pow_add, pow_zero, mul_one, mul_assoc]
  have hround : roundRatio (m * 2 ^ k) 1 = c := by
    rw [← roundRatio_units c]
    apply roundRatio_congr one_pos unitsPerOne_pos
    rw [hunits, mul_one]
  rw [hround, hunits]

/-- The magnitude that is nearest to a whole number is the rounded one. -/
theorem units_roundRatio_one (n : Nat) : units (roundRatio n 1) = rounded n * unitsPerOne := by
  obtain ⟨hupper, hlower⟩ := rounded_shift n
  unfold rounded
  generalize n.log2 - 52 = k at hupper hlower ⊢
  rcases hlower with rfl | hlower
  · -- nothing is dropped
    rw [pow_zero, mul_one] at hupper
    rw [pow_zero, mul_one, roundHalfEven_one]
    exact (fitsSignificand_of_le (two_mul_binade ▸ hupper.le)).units_roundRatio
  · -- in units of the least magnitude all shifts are greater by those of one
    have hscale : 1 * 2 ^ (k + 1074) = 2 ^ k * unitsPerOne := by
      rw [one_mul, pow_add, unitsPerOne_eq]
    have hupper' : n * unitsPerOne < 2 * binade * (1 * 2 ^ (k + 1074)) := by
      rw [hscale, ← mul_assoc]
      exact Nat.mul_lt_mul_of_pos_right hupper unitsPerOne_pos
    have hlower' : binade * (1 * 2 ^ (k + 1074)) ≤ n * unitsPerOne := by
      rw [hscale, ← mul_assoc]
      exact Nat.mul_le_mul_right unitsPerOne hlower
    obtain ⟨hm, hm'⟩ := significand_bounds one_pos hupper' (.inr hlower')
    rw [roundRatio_of_shift one_pos hupper' (.inr hlower'), units_add hm hm', hscale,
      roundHalfEven_mul_right n _ unitsPerOne_pos, pow_add, ← unitsPerOne_eq, mul_assoc]

theorem rounded_eq_self_iff {n : Nat} : rounded n = n ↔ FitsSignificand n := by
  constructor
  · intro h
    obtain ⟨hupper, hlower⟩ := rounded_shift n
    rw [← one_mul (2 ^ (n.log2 - 52))] at hupper hlower
    obtain ⟨hm, -⟩ := significand_bounds one_pos hupper hlower
    rw [one_mul, two_mul_binade] at hm
    rw [rounded] at h
    obtain ⟨m, k, hlt, heq⟩ := fitsSignificand_of_le hm
    refine ⟨m, k + (n.log2 - 52), hlt, ?_⟩
    rw [pow_add, ← mul_assoc, ← heq, h]
  · intro h
    have hunits := h.units_roundRatio
    rw [units_roundRatio_one] at hunits
    exact Nat.eq_of_mul_eq_mul_right unitsPerOne_pos hunits

/-! ## Overflow -/

theorem lt_infinityCode_iff {code n : Nat} (h : units code = n * unitsPerOne) :
    code < infinityCode ↔ n < 2 ^ 1024 := by
  rw [← units_strictMono.lt_iff_lt, h, units_infinityCode, Nat.mul_lt_mul_right unitsPerOne_pos]

theorem isFinite_clamp_iff (negative : Bool) (code : Nat) :
    (signed negative (clamp code)).isFinite = true ↔ code < infinityCode := by
  constructor
  · intro h
    exact lt_of_clamp_lt (of_decide_eq_true h)
  · intro h
    refine decide_eq_true ?_
    rwa [clamp_of_lt h]

theorem isFinite_whole_iff (n : Nat) :
    (ofRatio false n 1).isFinite = true ↔ rounded n < 2 ^ 1024 :=
  (isFinite_clamp_iff false _).trans (lt_infinityCode_iff (units_roundRatio_one n))

/-! ## Multiplication by a power of two -/

section

variable {b : Fin (infinityCode + 1)} {k : Nat}

/-- The product of a whole number that does not overflow has the code of its magnitude. -/
theorem whole_mul_eq (hb : units b.val = 2 ^ k * unitsPerOne)
    (hbfinite : (signed false b).isFinite = true) {n : Nat} (h : rounded n < 2 ^ 1024) :
    ∃ c, units c = rounded n * 2 ^ k * unitsPerOne ∧
      (ofRatio false n 1).mul (signed false b) = signed false (clamp c) := by
  have hfinite := (isFinite_whole_iff n).mpr h
  have hcode := clamp_of_lt ((lt_infinityCode_iff (units_roundRatio_one n)).mpr h)
  obtain ⟨c, hc⟩ := exists_units_mul_pow (clamp (roundRatio n 1)).val k
  refine ⟨c, ?_, mul_pow_eq hb hbfinite hfinite hc⟩
  rw [hc, hcode, units_roundRatio_one, mul_right_comm]

/-- A product with a power of two is finite exactly if the rounded number times the power is small
enough. -/
theorem isFinite_whole_mul_iff (hb : units b.val = 2 ^ k * unitsPerOne)
    (hbfinite : (signed false b).isFinite = true) (n : Nat) :
    ((ofRatio false n 1).mul (signed false b)).isFinite = true ↔ rounded n * 2 ^ k < 2 ^ 1024 := by
  by_cases h : rounded n < 2 ^ 1024
  · obtain ⟨c, hunits, hmul⟩ := whole_mul_eq hb hbfinite h
    rw [hmul, isFinite_clamp_iff, lt_infinityCode_iff hunits]
  · -- what overflows by itself does so in a product
    constructor
    · intro hfinite
      exact absurd ((isFinite_whole_iff n).mp (isFinite_of_mul hfinite)) h
    · intro hlt
      exact absurd (Nat.lt_of_le_of_lt (Nat.le_mul_of_pos_right _ (pow_pos two_pos k)) hlt) h

/-- A product with a power of two that does not overflow is the rounded number times the power. -/
theorem truncate_whole_mul (hb : units b.val = 2 ^ k * unitsPerOne)
    (hbfinite : (signed false b).isFinite = true) {n : Nat} (h : rounded n * 2 ^ k < 2 ^ 1024) :
    ((ofRatio false n 1).mul (signed false b)).truncate = (rounded n * 2 ^ k : Nat) := by
  have hlt := Nat.lt_of_le_of_lt (Nat.le_mul_of_pos_right _ (pow_pos two_pos k)) h
  obtain ⟨c, hunits, hmul⟩ := whole_mul_eq hb hbfinite hlt
  rw [hmul]
  show ((units (clamp c).val : Int)).tdiv unitsPerOne = _
  rw [clamp_of_lt ((lt_infinityCode_iff hunits).mpr h), hunits, ← Int.ofNat_tdiv,
    Nat.mul_div_cancel _ unitsPerOne_pos]

end

end JsonTap.Double
