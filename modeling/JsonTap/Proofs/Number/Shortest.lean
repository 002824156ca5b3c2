import JsonTap.Number.Shortest
import JsonTap.Proofs.Number.Rounding

/-!
# The shortest decimal reads back

What `Double.shortest` finds reads back as the magnitude it was found for (`shortest_code`). A grid
gives a point only if the point reads back; where no grid gives one there are all digits of the
magnitude, which are exact.
-/

namespace JsonTap.Double

/-! ## Points of a grid -/

theorem better?_code {code rest den : Nat} {below above d : Decimal}
    (h : better? code below above rest den = some d) : d.code = code := by
  unfold better? at h
  split at h
  · cases h
  · next hb _ =>
      cases h
      exact of_decide_eq_true hb
  · next _ ha =>
      cases h
      exact of_decide_eq_true ha
  · next hb ha =>
      split at h
      · cases h
        exact of_decide_eq_true hb
      · split at h
        · cases h
          exact of_decide_eq_true ha
        · split at h
          · cases h
            exact of_decide_eq_true hb
          · cases h
            exact of_decide_eq_true ha

/-- A point that a grid gives reads back. -/
theorem onPlaces?_code {code places : Nat} {d : Decimal} (h : onPlaces? code places = some d) :
    d.code = code := by
  rw [onPlaces?] at h
  exact better?_code h

theorem searchPlaces_code {code fuel places : Nat} {d : Decimal}
    (h : searchPlaces code fuel places = some d) : d.code = code := by
  induction fuel generalizing places with
  | zero => cases h
  | succ fuel ih =>
      rw [searchPlaces] at h
      cases hp : onPlaces? code places with
      | some d' =>
          rw [hp] at h
          cases h
          exact onPlaces?_code hp
      | none =>
          rw [hp] at h
          exact ih h

/-! ## Reading back -/

theorem Decimal.code_eq (d : Decimal) :
    d.code = (clamp (roundRatio (d.digits * 10 ^ d.exponent.toNat)
      (10 ^ (-d.exponent).toNat))).val := by
  rw [Decimal.code, ofDecimal_eq]
  rfl

/-- The sign of a decimal is kept, and the magnitude does not depend on it. -/
theorem ofDecimal_of_code {d : Decimal} {c : Fin (infinityCode + 1)} (h : d.code = c.val)
    (negative : Bool) : ofDecimal negative d.digits d.exponent = .signed negative c := by
  rw [Decimal.code_eq] at h
  rw [ofDecimal_eq, ofRatio, Fin.ext h]

/-- As a ratio, all digits of a magnitude are its units over the units of one. -/
theorem roundRatio_allDigits (code : Nat) :
    roundRatio (units code * 5 ^ 1074) (10 ^ 1074) = code := by
  -- the powers of five cancel, and those of two are the units of one
  have hten : ∀ k, 10 ^ k = 2 ^ k * 5 ^ k := fun k => mul_pow 2 5 k
  refine (roundRatio_congr (pow_pos (by decide) _) unitsPerOne_pos ?_).trans
    (roundRatio_units code)
  rw [unitsPerOne_eq, hten, mul_assoc, mul_comm (5 ^ 1074)]

theorem allDigits_code {code : Nat} (hlt : code < infinityCode) :
    (allDigits code).code = code := by
  have hdigits : (allDigits code).digits = units code * 5 ^ 1074 := by
    unfold allDigits
    simp only [nat_pow_eq]
  have hup : (allDigits code).exponent.toNat = 0 := rfl
  have hdown : (-(allDigits code).exponent).toNat = 1074 := rfl
  rw [Decimal.code_eq, hdigits, hup, hdown, pow_zero, mul_one, roundRatio_allDigits,
    clamp_of_lt hlt]

/-- The shortest decimal of a finite magnitude reads back as the magnitude. -/
theorem shortest_code {code : Nat} (hlt : code < infinityCode) :
    (shortest code).code = code := by
  rw [shortest]
  cases h : searchPlaces code 17 1 with
  | some d => exact searchPlaces_code h
  | none => exact allDigits_code hlt

end JsonTap.Double
