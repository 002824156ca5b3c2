import JsonTap.Text.Decimal
import Mathlib.Tactic.Ring

/-!
# Decimal numerals

`Text.ofNat` writes digits without a zero in front, and `Text.digitsValue` reads them back
(`digitsValue_ofNat`). The count of the digits places a number between two powers of ten
(`lt_pow_digitCount`, `pow_le_of_digitCount`).
-/

namespace JsonTap.Text

/-! ## Values of digits -/

theorem digitsValueFrom_eq (acc : Nat) (t : Text) :
    digitsValueFrom acc t = acc * 10 ^ t.length + digitsValue t := by
  induction t generalizing acc with
  | nil => simp [digitsValueFrom, digitsValue]
  | cons c t ih =>
      show digitsValueFrom (acc * 10 + (c.val - 0x30)) t =
        acc * 10 ^ (t.length + 1) + digitsValueFrom (0 * 10 + (c.val - 0x30)) t
      rw [ih, ih (0 * 10 + (c.val - 0x30))]
      ring

theorem digitsValue_append (s t : Text) :
    digitsValue (s ++ t) = digitsValue s * 10 ^ t.length + digitsValue t := by
  rw [← digitsValueFrom_eq]
  exact List.foldl_append

@[simp] theorem digitsValue_nil : digitsValue [] = 0 := rfl

@[simp] theorem digitsValue_zeros (k : Nat) :
    digitsValue (List.replicate k ('0' : CodePoint)) = 0 := by
  induction k with
  | zero => rfl
  | succ k ih =>
      rw [List.replicate_succ', digitsValue_append, ih]
      rfl

/-- Zeros behind the digits count, zeros in front do not. -/
theorem digitsValue_append_zeros (s : Text) (k : Nat) :
    digitsValue (s ++ List.replicate k ('0' : CodePoint)) = digitsValue s * 10 ^ k := by
  simp [digitsValue_append]

theorem digitsValue_zeros_append (s : Text) (k : Nat) :
    digitsValue (List.replicate k ('0' : CodePoint) ++ s) = digitsValue s := by
  simp [digitsValue_append]

theorem digitsValue_padStart (n : Nat) (s : Text) :
    digitsValue (padStart n '0' s) = digitsValue s :=
  digitsValue_zeros_append s _

/-! ## Digits of a number -/

theorem decimalOnto_eq (n : Nat) (acc : Text) : decimalOnto n acc = ofNat n ++ acc := by
  induction n using Nat.strong_induction_on generalizing acc with
  | _ n ih =>
      rw [ofNat, decimalOnto.eq_def n acc, decimalOnto.eq_def n []]
      split
      · rfl
      · rw [ih (n / 10) (by omega), ih (n / 10) (by omega) [_], List.append_assoc]
        rfl

theorem ofNat_of_lt {n : Nat} (h : n < 10) : ofNat n = [CodePoint.digit n] := by
  rw [ofNat, decimalOnto, if_pos h]

theorem ofNat_of_le {n : Nat} (h : 10 ≤ n) :
    ofNat n = ofNat (n / 10) ++ [CodePoint.digit (n % 10)] := by
  rw [ofNat, decimalOnto, if_neg (by omega), decimalOnto_eq]

theorem val_of_isDigit {c : CodePoint} (h : c.isDigit = true) : 0x30 ≤ c.val ∧ c.val ≤ 0x39 := by
  rwa [CodePoint.isDigit, Bool.and_eq_true, decide_eq_true_eq, decide_eq_true_eq] at h

theorem isDigit_digit (n : Nat) : (CodePoint.digit n).isDigit = true := by
  show (decide (0x30 ≤ 0x30 + n % 10) && decide (0x30 + n % 10 ≤ 0x39)) = true
  simp only [Bool.and_eq_true, decide_eq_true_eq]
  omega

theorem ofNat_ne_nil (n : Nat) : ofNat n ≠ [] := by
  by_cases h : n < 10
  · simp [ofNat_of_lt h]
  · simp [ofNat_of_le (Nat.le_of_not_lt h)]

theorem isDigit_of_mem_ofNat (n : Nat) : ∀ c ∈ ofNat n, c.isDigit = true := by
  induction n using Nat.strong_induction_on with
  | _ n ih =>
      intro c hc
      by_cases h : n < 10
      · rw [ofNat_of_lt h] at hc
        rw [List.mem_singleton.mp hc]
        exact isDigit_digit n
      · rw [ofNat_of_le (Nat.le_of_not_lt h)] at hc
        rcases List.mem_append.mp hc with hc | hc
        · exact ih (n / 10) (by omega) c hc
        · rw [List.mem_singleton.mp hc]
          exact isDigit_digit _

/-- A positive number is written without a zero in front. -/
theorem head?_ofNat {n : Nat} (hn : 0 < n) : (ofNat n).head? ≠ some ('0' : CodePoint) := by
  induction n using Nat.strong_induction_on with
  | _ n ih =>
      by_cases h : n < 10
      · rw [ofNat_of_lt h, List.head?_cons]
        intro h0
        have hval := congrArg Fin.val (Option.some.inj h0)
        have hzero : (CodePoint.ofChar '0').val = 0x30 := rfl
        simp only [CodePoint.digit, hzero] at hval
        omega
      · -- the last digit is put behind, so the first one is that of the quotient
        obtain ⟨c, t, hc⟩ := List.exists_cons_of_ne_nil (ofNat_ne_nil (n / 10))
        have hih := ih (n / 10) (by omega) (by omega)
        rw [ofNat_of_le (Nat.le_of_not_lt h), hc]
        rwa [hc] at hih

/-- Reading undoes writing. -/
theorem digitsValue_ofNat (n : Nat) : digitsValue (ofNat n) = n := by
  induction n using Nat.strong_induction_on with
  | _ n ih =>
      have hdigit : ∀ m, digitsValue [CodePoint.digit m] = m % 10 := by
        intro m
        show 0 * 10 + (0x30 + m % 10 - 0x30) = m % 10
        omega
      by_cases h : n < 10
      · rw [ofNat_of_lt h, hdigit]
        omega
      · rw [ofNat_of_le (Nat.le_of_not_lt h), digitsValue_append, ih (n / 10) (by omega), hdigit]
        simp only [List.length_singleton]
        omega

/-! ## How many digits -/

theorem digitCount_of_lt {n : Nat} (h : n < 10) : digitCount n = 1 := by
  rw [digitCount, ofNat_of_lt h]
  rfl

theorem digitCount_of_le {n : Nat} (h : 10 ≤ n) : digitCount n = digitCount (n / 10) + 1 := by
  rw [digitCount, ofNat_of_le h, List.length_append]
  rfl

theorem digitCount_pos (n : Nat) : 0 < digitCount n := by
  rw [digitCount]
  exact List.length_pos_iff.mpr (ofNat_ne_nil n)

theorem lt_pow_digitCount (n : Nat) : n < 10 ^ digitCount n := by
  induction n using Nat.strong_induction_on with
  | _ n ih =>
      by_cases h : n < 10
      · rw [digitCount_of_lt h]
        omega
      · have hlt := ih (n / 10) (by omega)
        rw [digitCount_of_le (Nat.le_of_not_lt h), pow_succ]
        omega

theorem pow_le_of_digitCount {n k : Nat} (hn : 0 < n) (hk : digitCount n = k + 1) :
    10 ^ k ≤ n := by
  induction n using Nat.strong_induction_on generalizing k with
  | _ n ih =>
      by_cases h : n < 10
      · rw [digitCount_of_lt h] at hk
        obtain rfl : k = 0 := by omega
        exact hn
      · rw [digitCount_of_le (Nat.le_of_not_lt h)] at hk
        obtain ⟨j, rfl⟩ : ∃ j, k = j + 1 :=
          ⟨k - 1, by have := digitCount_pos (n / 10); omega⟩
        have hle := ih (n / 10) (by omega) (by omega) (Nat.succ.inj hk)
        rw [pow_succ]
        omega

end JsonTap.Text
