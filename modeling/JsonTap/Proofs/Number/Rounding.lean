import JsonTap.Number.Double
import JsonTap.Proofs.Text.Decimal
import Mathlib.Data.Nat.Log
import Mathlib.Order.Monotone.Basic

/-!
# Rounding to binary64

`Double.roundRatio` is correctly rounded: no magnitude is nearer to the ratio than the one of the
code that it gives, and between two that are as near it gives the even one
(`roundRatio_nearest`). These two properties leave one code (`Nearest.unique`), so that rounding
depends on the ratio alone, and gives back a code whose magnitude it is handed exactly.

Decimals are ratios too: the shortcuts that `Double.ofDecimal` takes by the count of digits change
nothing (`ofDecimal_eq`).
-/

namespace JsonTap

/-! ## Quotients -/

/-- How far `u` is from the quotient of `n` and `d`, as a multiple of one over `d`. -/
def gap (n d u : Nat) : Nat := (u * d - n) + (n - u * d)

theorem gap_div (n d : Nat) : gap n d (n / d) = n % d := by
  have hn := Nat.div_add_mod' n d
  rw [gap]
  omega

theorem gap_div_succ (n : Nat) {d : Nat} (hd : 0 < d) : gap n d (n / d + 1) = d - n % d := by
  have hn := Nat.div_add_mod' n d
  have hr := Nat.mod_lt n hd
  rw [gap, Nat.succ_mul]
  omega

theorem roundHalfEven_bounds (n d : Nat) :
    n / d ≤ roundHalfEven n d ∧ roundHalfEven n d ≤ n / d + 1 := by
  unfold roundHalfEven
  dsimp only
  split
  · omega
  · split
    · omega
    · omega

/-- A factor of both numbers does not count. -/
theorem roundHalfEven_mul_right (n d : Nat) {s : Nat} (hs : 0 < s) :
    roundHalfEven (n * s) (d * s) = roundHalfEven n d := by
  have hlow : 2 * (n % d * s) < d * s ↔ 2 * (n % d) < d := by
    rw [← mul_assoc, Nat.mul_lt_mul_right hs]
  have hhigh : d * s < 2 * (n % d * s) ↔ d < 2 * (n % d) := by
    rw [← mul_assoc, Nat.mul_lt_mul_right hs]
  unfold roundHalfEven
  simp only [Nat.mul_div_mul_right n d hs, Nat.mul_mod_mul_right, hlow, hhigh]

theorem roundHalfEven_one (n : Nat) : roundHalfEven n 1 = n := by
  simp [roundHalfEven, Nat.mod_one]

/-- Only the two numbers around a quotient are near to it. -/
theorem le_gap {n d j : Nat} (hd : 0 < d) (h : j ≠ n / d) (h' : j ≠ n / d + 1) : d ≤ gap n d j := by
  have hn := Nat.div_add_mod' n d
  have hr := Nat.mod_lt n hd
  rw [gap]
  rcases Nat.lt_or_gt_of_ne h with hj | hj
  · have hmul := Nat.mul_le_mul_right d hj
    rw [Nat.succ_mul] at hmul
    omega
  · have hmul : (n / d + 1 + 1) * d ≤ j * d := Nat.mul_le_mul_right d (by omega)
    rw [Nat.succ_mul, Nat.succ_mul] at hmul
    omega

/-- No number is nearer to the quotient than the rounded one; between two that are as near it is the
even one. -/
theorem roundHalfEven_nearest (n : Nat) {d : Nat} (hd : 0 < d) (j : Nat) :
    gap n d (roundHalfEven n d) ≤ gap n d j ∧
      (gap n d j = gap n d (roundHalfEven n d) →
        j = roundHalfEven n d ∨ roundHalfEven n d % 2 = 0) := by
  have hr := Nat.mod_lt n hd
  have hlow := gap_div n d
  have hhigh := gap_div_succ n hd
  -- `j` is one of the two numbers around the quotient, or a whole step away from it
  have hj : j = n / d ∨ j = n / d + 1 ∨ d ≤ gap n d j := by
    by_cases h : j = n / d
    · exact .inl h
    · by_cases h' : j = n / d + 1
      · exact .inr (.inl h')
      · exact .inr (.inr (le_gap hd h h'))
  unfold roundHalfEven
  dsimp only
  split
  · rcases hj with rfl | rfl | hj <;> omega
  · split
    · rcases hj with rfl | rfl | hj <;> omega
    · rcases Nat.mod_two_eq_zero_or_one (n / d) with h2 | h2
      · rw [h2, Nat.add_zero]
        rcases hj with rfl | rfl | hj <;> omega
      · rw [h2]
        rcases hj with rfl | rfl | hj <;> omega

namespace Double

/-! ## Magnitudes -/

theorem nat_pow_eq (b n : Nat) : Nat.pow b n = b ^ n := Nat.pow_eq

theorem unitsPerOne_eq : unitsPerOne = 2 ^ 1074 := by
  unfold unitsPerOne
  simp only [nat_pow_eq]

theorem unitsPerOne_pos : 0 < unitsPerOne := Nat.pos_of_ne_zero (by decide +kernel)

/-- The magnitude of a code with the significand `m` and the shift `k`. The significand may be the
next power of two, whose code is the same. -/
theorem units_add {k m : Nat} (hm : m ≤ 2 * binade) (h : binade ≤ m ∨ k = 0) :
    units (k * binade + m) = m * 2 ^ k := by
  by_cases hlow : m < binade
  · obtain rfl : k = 0 := by omega
    rw [zero_mul, zero_add, pow_zero, mul_one, units, if_pos hlow]
  have hle : ¬ k * binade + m < binade := by omega
  rw [units, if_neg hle, nat_pow_eq]
  by_cases htop : m = 2 * binade
  · -- the code has carried: its own shift is one more
    have hdiv : (k * binade + m) / binade = k + 2 := by
      rw [htop, binade]
      omega
    have hmod : (k * binade + m) % binade = 0 := by
      rw [htop, binade]
      omega
    rw [hdiv, hmod, htop, Nat.add_zero, show k + 2 - 1 = k + 1 by omega, pow_succ]
    ring
  · rw [binade] at hm hlow htop ⊢
    have hdiv : (k * 0x10000000000000 + m) / 0x10000000000000 = k + 1 := by omega
    have hmod : 0x10000000000000 + (k * 0x10000000000000 + m) % 0x10000000000000 = m := by omega
    rw [hdiv, hmod, Nat.add_sub_cancel]

/-- Every code has a significand and a shift. -/
theorem exists_shift (c : Nat) :
    ∃ k m, c = k * binade + m ∧ m < 2 * binade ∧ (binade ≤ m ∨ k = 0) := by
  by_cases hc : c < binade
  · exact ⟨0, c, by omega, by omega, .inr rfl⟩
  · refine ⟨c / binade - 1, binade + c % binade, ?_⟩
    rw [binade] at hc ⊢
    omega

theorem units_strictMono : StrictMono units := by
  apply strictMono_nat_of_lt_succ
  intro c
  obtain ⟨k, m, rfl, hm, h⟩ := exists_shift c
  rw [add_assoc, units_add (by omega) h, units_add (by omega) (by omega)]
  exact Nat.mul_lt_mul_of_pos_right (Nat.lt_succ_self m) (pow_pos two_pos k)

theorem units_pos {code : Nat} (h : 0 < code) : 0 < units code :=
  Nat.lt_of_le_of_lt (Nat.zero_le _) (units_strictMono h)

/-- From the first code with a shift on, magnitudes are multiples of the step of the shift. -/
theorem pow_dvd_units {k c : Nat} (h : k * binade + binade ≤ c ∨ k = 0) : 2 ^ k ∣ units c := by
  obtain ⟨k', m, rfl, hm, h'⟩ := exists_shift c
  rw [units_add hm.le h']
  apply Dvd.dvd.mul_left
  apply pow_dvd_pow
  rcases h with h | rfl
  · rw [binade] at h hm
    omega
  · exact Nat.zero_le k'

/-! ## The nearest magnitude -/

/-- A code whose magnitude is nearest to a ratio: no magnitude is nearer, and if another one is as
near, the code is even. The codes go on above `infinityCode`, for a ratio overflows when the
magnitude that it would be rounded to is too large. -/
structure Nearest (num den code : Nat) : Prop where
  near : ∀ c, gap (num * unitsPerOne) den (units code) ≤ gap (num * unitsPerOne) den (units c)
  even : ∀ c, gap (num * unitsPerOne) den (units c) = gap (num * unitsPerOne) den (units code) →
    c = code ∨ code % 2 = 0

theorem gap_mul (n d j s : Nat) : gap n d (j * s) = gap n (d * s) j := by
  have h : j * s * d = j * (d * s) := by ring
  rw [gap, gap, h]

/-- The shift of a rounded ratio: the quotient in units has at most 53 binary digits above it, and
no fewer unless the shift is zero. -/
theorem shift_bounds (n : Nat) {den : Nat} (hden : 0 < den) :
    n < 2 * binade * (den * 2 ^ ((n / den).log2 - 52)) ∧
      ((n / den).log2 - 52 = 0 ∨ binade * (den * 2 ^ ((n / den).log2 - 52)) ≤ n) := by
  have hb : binade = 2 ^ 52 := by decide
  generalize hk : (n / den).log2 - 52 = k
  constructor
  · have hlt : n / den < 2 ^ (53 + k) := by
      refine Nat.lt_of_lt_of_le Nat.lt_log2_self ?_
      exact Nat.pow_le_pow_right two_pos (by omega)
    calc n < 2 ^ (53 + k) * den := (Nat.div_lt_iff_lt_mul hden).mp hlt
      _ = 2 * binade * (den * 2 ^ k) := by rw [hb]; ring
  · by_cases h0 : k = 0
    · exact .inl h0
    · -- a shift that is not zero drops the digits of the quotient after the first 53
      right
      have hne : n / den ≠ 0 := by
        intro hz
        rw [hz] at hk
        exact h0 (hk.symm.trans (by decide))
      have hlog : (n / den).log2 = 52 + k := by omega
      have hle : 2 ^ (52 + k) ≤ n / den := by
        rw [← hlog]
        exact Nat.log2_self_le hne
      calc binade * (den * 2 ^ k) = 2 ^ (52 + k) * den := by rw [hb]; ring
        _ ≤ n := (Nat.le_div_iff_mul_le hden).mp hle

/-- At the right shift, the rounded quotient is a significand. -/
theorem significand_bounds {n den k : Nat} (hden : 0 < den)
    (hupper : n < 2 * binade * (den * 2 ^ k)) (hlower : k = 0 ∨ binade * (den * 2 ^ k) ≤ n) :
    roundHalfEven n (den * 2 ^ k) ≤ 2 * binade ∧
      (binade ≤ roundHalfEven n (den * 2 ^ k) ∨ k = 0) := by
  have hstep : 0 < den * 2 ^ k := Nat.mul_pos hden (pow_pos two_pos k)
  obtain ⟨hfloor, hceil⟩ := roundHalfEven_bounds n (den * 2 ^ k)
  constructor
  · have hlt := (Nat.div_lt_iff_lt_mul hstep).mpr hupper
    omega
  · rcases hlower with h0 | hle
    · exact .inr h0
    · exact .inl (Nat.le_trans ((Nat.le_div_iff_mul_le hstep).mpr hle) hfloor)

/-- At the right shift, the code of the rounded quotient is nearest. -/
theorem shift_nearest {n den k : Nat} (hden : 0 < den) (hupper : n < 2 * binade * (den * 2 ^ k))
    (hlower : k = 0 ∨ binade * (den * 2 ^ k) ≤ n) (c : Nat) :
    gap n den (units (k * binade + roundHalfEven n (den * 2 ^ k))) ≤ gap n den (units c) ∧
      (gap n den (units c) = gap n den (units (k * binade + roundHalfEven n (den * 2 ^ k))) →
        c = k * binade + roundHalfEven n (den * 2 ^ k) ∨
          (k * binade + roundHalfEven n (den * 2 ^ k)) % 2 = 0) := by
  have hstep : 0 < den * 2 ^ k := Nat.mul_pos hden (pow_pos two_pos k)
  obtain ⟨hm, hm'⟩ := significand_bounds hden hupper hlower
  have hnearest := roundHalfEven_nearest n hstep
  generalize roundHalfEven n (den * 2 ^ k) = m at hm hm' hnearest ⊢
  have hunits := units_add hm hm'
  rw [hunits, gap_mul]
  by_cases hc : k * binade + binade ≤ c ∨ k = 0
  · -- on the grid of the shift the rounded quotient is nearest
    obtain ⟨j, hj⟩ := pow_dvd_units hc
    rw [mul_comm] at hj
    rw [hj, gap_mul]
    refine ⟨(hnearest j).1, ?_⟩
    intro htie
    rcases (hnearest j).2 htie with rfl | heven
    · exact .inl (units_strictMono.injective (hj.trans hunits.symm))
    · right
      rw [binade]
      omega
  · -- below it all magnitudes are farther than the least one on the grid
    have hle : binade * (den * 2 ^ k) ≤ n := hlower.resolve_left (by tauto)
    have hleast : units (k * binade + binade) = binade * 2 ^ k :=
      units_add (by omega) (.inl (Nat.le_refl _))
    have hlt : units c < binade * 2 ^ k := by
      rw [← hleast]
      apply units_strictMono
      omega
    have hmul : units c * den < binade * (den * 2 ^ k) := by
      calc units c * den < binade * 2 ^ k * den := Nat.mul_lt_mul_of_pos_right hlt hden
        _ = binade * (den * 2 ^ k) := by ring
    have hnear := (hnearest binade).1
    have hgap : gap n (den * 2 ^ k) binade < gap n den (units c) := by
      rw [gap, gap]
      omega
    exact ⟨by omega, fun htie => by omega⟩

/-- Rounding is correct. -/
theorem roundRatio_nearest (num : Nat) {den : Nat} (hden : 0 < den) :
    Nearest num den (roundRatio num den) := by
  obtain ⟨hupper, hlower⟩ := shift_bounds (num * unitsPerOne) hden
  have h := shift_nearest hden hupper hlower
  rw [roundRatio, nat_pow_eq]
  exact ⟨fun c => (h c).1, fun c => (h c).2⟩

/-- Between two codes that are as near there is none. -/
theorem Nearest.not_lt {num den c d : Nat} (hden : 0 < den) (hc : Nearest num den c)
    (hd : Nearest num den d) : ¬ c < d := by
  intro hlt
  have htie := Nat.le_antisymm (hc.near d) (hd.near c)
  have hceven := (hc.even d htie.symm).resolve_left (Nat.ne_of_gt hlt)
  have hdeven := (hd.even c htie).resolve_left (Nat.ne_of_lt hlt)
  -- neither even code is next to the other, so the code after `c` lies between them and is nearer
  have hlow : units c * den < units (c + 1) * den :=
    Nat.mul_lt_mul_of_pos_right (units_strictMono (by omega)) hden
  have hhigh : units (c + 1) * den < units d * den :=
    Nat.mul_lt_mul_of_pos_right (units_strictMono (by omega)) hden
  have hnear := hc.near (c + 1)
  rw [gap, gap] at htie hnear
  omega

theorem Nearest.unique {num den c d : Nat} (hden : 0 < den) (hc : Nearest num den c)
    (hd : Nearest num den d) : c = d := by
  rcases Nat.lt_trichotomy c d with hlt | rfl | hlt
  · exact absurd hlt (hc.not_lt hden hd)
  · rfl
  · exact absurd hlt (hd.not_lt hden hc)

theorem nearest_iff {num den c : Nat} (hden : 0 < den) :
    Nearest num den c ↔ c = roundRatio num den := by
  constructor
  · intro h
    exact h.unique hden (roundRatio_nearest num hden)
  · rintro rfl
    exact roundRatio_nearest num hden

/-- Any shift that fits gives the code. -/
theorem roundRatio_of_shift {num den k : Nat} (hden : 0 < den)
    (hupper : num * unitsPerOne < 2 * binade * (den * 2 ^ k))
    (hlower : k = 0 ∨ binade * (den * 2 ^ k) ≤ num * unitsPerOne) :
    roundRatio num den = k * binade + roundHalfEven (num * unitsPerOne) (den * 2 ^ k) := by
  have h := shift_nearest hden hupper hlower
  exact ((nearest_iff hden).mp ⟨fun c => (h c).1, fun c => (h c).2⟩).symm

/-- Equal ratios are rounded alike. -/
theorem roundRatio_congr {a b c d : Nat} (hb : 0 < b) (hd : 0 < d) (h : a * d = c * b) :
    roundRatio a b = roundRatio c d := by
  -- over a common denominator the distances are the same
  have hgap : ∀ u, gap (a * unitsPerOne) b u * d = gap (c * unitsPerOne) d u * b := by
    intro u
    have hleft : u * b * d = u * d * b := by ring
    have hright : a * unitsPerOne * d = c * unitsPerOne * b := by
      rw [mul_right_comm, h, mul_right_comm]
    rw [gap, gap, Nat.add_mul, Nat.add_mul, Nat.sub_mul, Nat.sub_mul, Nat.sub_mul, Nat.sub_mul,
      hleft, hright]
  have hnear := roundRatio_nearest a hb
  rw [← nearest_iff hd]
  constructor
  · intro x
    have hx := Nat.mul_le_mul_right d (hnear.near x)
    rw [hgap, hgap] at hx
    exact Nat.le_of_mul_le_mul_right hx hb
  · intro x hx
    apply hnear.even x
    apply Nat.eq_of_mul_eq_mul_right hd
    rw [hgap, hgap, hx]

/-- A magnitude is rounded to its own code. -/
theorem roundRatio_units (code : Nat) : roundRatio (units code) unitsPerOne = code := by
  have hnear := (roundRatio_nearest (units code) unitsPerOne_pos).near code
  have hself : gap (units code * unitsPerOne) unitsPerOne (units code) = 0 := by simp [gap]
  rw [hself, Nat.le_zero, gap] at hnear
  apply units_strictMono.injective
  apply Nat.eq_of_mul_eq_mul_right unitsPerOne_pos
  omega

/-! ## Decimals -/

theorem units_infinityCode : units infinityCode = 2 ^ 1024 * unitsPerOne := by
  have hcode : infinityCode = 2046 * binade + binade := by decide
  have hb : binade = 2 ^ 52 := by decide
  rw [hcode, units_add (by omega) (.inl (Nat.le_refl _)), hb, unitsPerOne_eq, ← pow_add, ← pow_add]

/-- From `2 ^ 1024` on a ratio overflows. -/
theorem infinityCode_le_roundRatio {num den : Nat} (hden : 0 < den) (h : 2 ^ 1024 * den ≤ num) :
    infinityCode ≤ roundRatio num den := by
  by_contra hlt
  -- the code of infinity would be nearer than the smaller one
  have hnear := (roundRatio_nearest num hden).near infinityCode
  have hmul : units (roundRatio num den) * den < units infinityCode * den :=
    Nat.mul_lt_mul_of_pos_right (units_strictMono (Nat.lt_of_not_le hlt)) hden
  have hle : units infinityCode * den ≤ num * unitsPerOne := by
    rw [units_infinityCode, mul_right_comm]
    exact Nat.mul_le_mul_right _ h
  rw [gap, gap] at hnear
  generalize num * unitsPerOne = n at hnear hle
  omega

/-- Below half a unit a ratio underflows. -/
theorem roundRatio_eq_zero {num den : Nat} (h : 2 * (num * unitsPerOne) < den) :
    roundRatio num den = 0 := by
  have hden : 0 < den := by omega
  by_contra hne
  -- zero would be nearer than the magnitude of a positive code
  have hnear := (roundRatio_nearest num hden).near 0
  have hmul : 1 * den ≤ units (roundRatio num den) * den :=
    Nat.mul_le_mul_right den (units_pos (Nat.pos_of_ne_zero hne))
  have hzero : units 0 = 0 := rfl
  rw [gap, gap, hzero, zero_mul] at hnear
  generalize num * unitsPerOne = n at h hnear
  omega

theorem infinityCode_le_of_digitCount {digits : Nat} {x : Int} (hpos : 0 < digits)
    (h : 310 < (Text.digitCount digits : Int) + x) :
    infinityCode ≤ roundRatio (digits * 10 ^ x.toNat) (10 ^ (-x).toNat) := by
  obtain ⟨k, hk⟩ : ∃ k, Text.digitCount digits = k + 1 :=
    ⟨Text.digitCount digits - 1, by have := Text.digitCount_pos digits; omega⟩
  apply infinityCode_le_roundRatio (pow_pos (by decide) _)
  have hbound : 2 ^ 1024 ≤ 10 ^ 310 := by decide +kernel
  calc 2 ^ 1024 * 10 ^ (-x).toNat ≤ 10 ^ 310 * 10 ^ (-x).toNat := Nat.mul_le_mul_right _ hbound
    _ = 10 ^ (310 + (-x).toNat) := (pow_add 10 310 _).symm
    _ ≤ 10 ^ (k + x.toNat) := Nat.pow_le_pow_right (by decide) (by omega)
    _ = 10 ^ k * 10 ^ x.toNat := pow_add 10 k _
    _ ≤ digits * 10 ^ x.toNat :=
      Nat.mul_le_mul_right _ (Text.pow_le_of_digitCount hpos hk)

theorem roundRatio_of_digitCount {digits : Nat} {x : Int}
    (h : (Text.digitCount digits : Int) + x < -330) :
    roundRatio (digits * 10 ^ x.toNat) (10 ^ (-x).toNat) = 0 := by
  apply roundRatio_eq_zero
  have hx : x.toNat = 0 := by omega
  have hbound : 2 * unitsPerOne < 10 ^ 330 := by decide +kernel
  rw [hx, pow_zero, mul_one]
  calc 2 * (digits * unitsPerOne) = digits * (2 * unitsPerOne) := by ring
    _ ≤ 10 ^ Text.digitCount digits * (2 * unitsPerOne) :=
      Nat.mul_le_mul_right _ (Text.lt_pow_digitCount digits).le
    _ < 10 ^ Text.digitCount digits * 10 ^ 330 :=
      Nat.mul_lt_mul_of_pos_left hbound (pow_pos (by decide) _)
    _ = 10 ^ (Text.digitCount digits + 330) := (pow_add 10 _ 330).symm
    _ ≤ 10 ^ (-x).toNat := Nat.pow_le_pow_right (by decide) (by omega)

theorem clamp_of_le {code : Nat} (h : infinityCode ≤ code) : clamp code = clamp infinityCode :=
  Fin.ext ((Nat.min_eq_right h).trans (Nat.min_self infinityCode).symm)

theorem clamp_of_lt {code : Nat} (h : code < infinityCode) : (clamp code).val = code :=
  Nat.min_eq_left h.le

/-- Whatever the count of its digits and the sign of its exponent, a decimal is one ratio. -/
theorem ofDecimal_eq (negative : Bool) (digits : Nat) (x : Int) :
    ofDecimal negative digits x =
      ofRatio negative (digits * 10 ^ x.toNat) (10 ^ (-x).toNat) := by
  have hden : 0 < 10 ^ (-x).toNat := pow_pos (by decide) _
  unfold ofDecimal
  dsimp only
  split
  · next h0 =>
      have hround : roundRatio 0 (10 ^ (-x).toNat) = 0 := by
        apply roundRatio_eq_zero
        rwa [zero_mul, mul_zero]
      rw [ofRatio, h0, zero_mul, hround]
      rfl
  · next hd =>
      split
      · next hlarge =>
          have hcode := infinityCode_le_of_digitCount (Nat.pos_of_ne_zero hd) hlarge
          rw [ofRatio, clamp_of_le hcode]
      · split
        · next hsmall =>
            rw [ofRatio, roundRatio_of_digitCount hsmall]
            rfl
        · cases x with
          | ofNat e => simp [Nat.pow_eq]
          | negSucc e => simp [Nat.pow_eq, Int.neg_negSucc]

/-- Zeros at the end of the digits count for the exponent. -/
theorem ofDecimal_mul_pow (negative : Bool) (digits j : Nat) (x : Int) :
    ofDecimal negative (digits * 10 ^ j) (x - j) = ofDecimal negative digits x := by
  have hratio : roundRatio (digits * 10 ^ j * 10 ^ (x - j).toNat) (10 ^ (-(x - j)).toNat) =
      roundRatio (digits * 10 ^ x.toNat) (10 ^ (-x).toNat) := by
    apply roundRatio_congr (pow_pos (by decide) _) (pow_pos (by decide) _)
    have hexp : j + (x - j).toNat + (-x).toNat = x.toNat + (-(x - j)).toNat := by omega
    calc digits * 10 ^ j * 10 ^ (x - j).toNat * 10 ^ (-x).toNat
        = digits * 10 ^ (j + (x - j).toNat + (-x).toNat) := by ring
      _ = digits * 10 ^ x.toNat * 10 ^ (-(x - j)).toNat := by rw [hexp]; ring
  rw [ofDecimal_eq, ofDecimal_eq, ofRatio, hratio, ← ofRatio]

end Double

end JsonTap
