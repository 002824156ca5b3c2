import JsonTap.Proofs.Config.Settings
import JsonTap.Proofs.Number.Numeral
import JsonTap.Proofs.Number.Value

/-!
# What a size denotes

The text of a size is a decimal numeral, with a unit behind it or without. `SizeText` tells the
exact number that is written. Without a unit it is given as it is (`parseSize?_plain`); with a unit
the numeral is first rounded to binary64, and the product is cut to whole bytes
(`parseSize?_scaled`).
-/

namespace JsonTap.Config

open Written (Numeral Plain)

/-- A text without blanks around it and in upper case as a size: its unit, and the exact number that
is written before it. -/
inductive SizeText (t : Text) : Option SizeUnit → ℚ → Prop
  | plain {p : Text} {v : ℚ} : SizeUnit.ofEnd? t = none → Plain t p → Numeral p v →
      SizeText t none v
  | scaled {u : SizeUnit} {numeral p : Text} {v : ℚ} : t = numeral ++ u.suffix → Plain numeral p →
      Numeral p v → SizeText t (some u) v

def Denotes (t : Text) (unit : Option SizeUnit) (v : ℚ) : Prop :=
  SizeText (Unicode.upper (Unicode.strip t)) unit v

def bytesPer (unit : Option SizeUnit) : Nat := (unit.map SizeUnit.bytes).getD 1

/-- Digits with a point and a unit denote what they say. -/
theorem denotes_point {size whole fraction : Text} {u : SizeUnit}
    (hsize : Unicode.upper (Unicode.strip size) =
      whole ++ ('.' : CodePoint) :: fraction ++ u.suffix)
    (hplain : Plain (whole ++ ('.' : CodePoint) :: fraction)
      (whole ++ ('.' : CodePoint) :: fraction))
    (hdigits : Written.Digits whole ∧ Written.Digits fraction) (hne : whole ≠ []) :
    Denotes size (some u) (Text.digitsValue (whole ++ fraction) / 10 ^ fraction.length) :=
  .scaled hsize hplain <|
    .of_digits hdigits.1 (.point hdigits.2) fun h => hne (List.append_eq_nil_iff.mp h).1

/-! ## Units -/

namespace SizeUnit

/-- A unit counts a power of two. -/
def shift : SizeUnit → Nat
  | .kilobyte => 10
  | .megabyte => 20
  | .gigabyte => 30

theorem bytes_eq (u : SizeUnit) : u.bytes = 2 ^ u.shift := by cases u <;> rfl

theorem length_suffix (u : SizeUnit) : u.suffix.length = 2 := by cases u <;> rfl

theorem suffix_injective {u v : SizeUnit} (h : u.suffix = v.suffix) : u = v := by
  revert h
  cases u <;> cases v <;> decide

/-- A text ends in a suffix exactly if something stands before it. -/
theorem endsWith_iff {t : Text} {u : SizeUnit} :
    t.endsWith u.suffix = true ↔ ∃ numeral, t = numeral ++ u.suffix := by
  rw [Text.endsWith, List.isSuffixOf_iff_suffix]
  exact exists_congr fun _ => eq_comm

theorem exists_of_ofEnd? {t : Text} {u : SizeUnit} (h : ofEnd? t = some u) :
    ∃ numeral, t = numeral ++ u.suffix := by
  rw [ofEnd?] at h
  have hend := List.find?_some h
  exact endsWith_iff.mp hend

/-- A text ends with one unit at most. -/
theorem ofEnd?_append (numeral : Text) (u : SizeUnit) : ofEnd? (numeral ++ u.suffix) = some u := by
  have hall : u ∈ [kilobyte, megabyte, gigabyte] := by cases u <;> decide
  cases h : ofEnd? (numeral ++ u.suffix) with
  | none =>
    have hno := List.find?_eq_none.mp h u hall
    exact absurd (endsWith_iff.mpr ⟨numeral, rfl⟩) hno
  | some v =>
    obtain ⟨numeral', happend⟩ := exists_of_ofEnd? h
    have hsuffix := (List.append_inj' happend (by rw [length_suffix, length_suffix])).2
    rw [suffix_injective hsuffix]

/-- The bytes of a unit are a power of two, and exact. -/
theorem ofInt_bytes (u : SizeUnit) :
    ∃ b, Double.ofInt u.bytes = .signed false b ∧
      (Double.signed false b).isFinite = true ∧
      Double.units b.val = 2 ^ u.shift * Double.unitsPerOne := by
  cases u <;> exact ⟨_, rfl, by decide +kernel, by decide +kernel⟩

end SizeUnit

/-! ## Sizes -/

/-- A text with a suffix is read as the number before it, times the unit. -/
theorem sizeOfUpper?_append (numeral : Text) (u : SizeUnit) :
    sizeOfUpper? (numeral ++ u.suffix) =
      (Written.double? numeral).bind (scaledBytes? · u) := by
  rw [sizeOfUpper?, SizeUnit.ofEnd?_append]
  simp

/-- A product is cut to a whole number, unless it is infinite. -/
theorem scaledBytes?_eq_some_iff {x : Double} {u : SizeUnit} {n : Int} :
    scaledBytes? x u = some n ↔
      (x.mul (.ofInt u.bytes)).isFinite = true ∧ (x.mul (.ofInt u.bytes)).truncate = n := by
  unfold scaledBytes?
  dsimp only
  split
  · next h => simp [h]
  · next h => simp [h]

/-- Every size that is taken denotes something. -/
theorem denotes_of_parseSize? {t : Text} {n : Int} (h : parseSize? t = some n) :
    ∃ unit v, Denotes t unit v := by
  unfold parseSize? at h
  unfold Denotes
  generalize Unicode.upper (Unicode.strip t) = upper at h ⊢
  cases hunit : SizeUnit.ofEnd? upper with
  | none =>
    rw [sizeOfUpper?, hunit] at h
    obtain ⟨p, hp, hv⟩ := Written.numeral_of_int? h
    exact ⟨none, _, .plain hunit hp hv⟩
  | some u =>
    obtain ⟨numeral, rfl⟩ := SizeUnit.exists_of_ofEnd? hunit
    rw [sizeOfUpper?_append] at h
    obtain ⟨x, hx, hscaled⟩ := Option.bind_eq_some_iff.mp h
    have hfinite := Double.isFinite_of_mul (scaledBytes?_eq_some_iff.mp hscaled).1
    obtain ⟨p, v, hp, hv⟩ := Written.numeral_of_double? hx hfinite
    exact ⟨some u, v, .scaled rfl hp hv⟩

/-- A size without a unit is given as it is written. -/
theorem parseSize?_plain {t : Text} {v : ℚ} {n : Int} (hv : Denotes t none v)
    (h : parseSize? t = some n) : v = n := by
  unfold parseSize? at h
  unfold Denotes at hv
  generalize Unicode.upper (Unicode.strip t) = upper at h hv
  cases hv with
  | plain hunit hp hnumeral =>
    rw [sizeOfUpper?, hunit] at h
    exact Written.int?_of_numeral hp hnumeral h

/-- The numeral before a unit is rounded, and its product with the unit is cut to whole bytes. -/
theorem parseSize?_scaled {t : Text} {u : SizeUnit} {v : ℚ} {n : Int} (hv : Denotes t (some u) v)
    (hpos : 0 < v) (h : parseSize? t = some n) :
    ∃ x : Double, x.IsNearest v ∧ n = ⌊x.value * u.bytes⌋₊ := by
  unfold parseSize? at h
  unfold Denotes at hv
  generalize Unicode.upper (Unicode.strip t) = upper at h hv
  cases hv with
  | @scaled _ numeral p _ htext hp hnumeral =>
    rw [htext, sizeOfUpper?_append] at h
    obtain ⟨x, hx, hscaled⟩ := Option.bind_eq_some_iff.mp h
    obtain ⟨negative, digits, exponent, rfl, hdouble⟩ := Written.double?_of_numeral hp hnumeral
    obtain rfl : .ofDecimal negative digits exponent = x := Option.some.inj (hdouble.symm.trans hx)
    obtain rfl := Written.negative_of_decimal_pos hpos
    obtain ⟨hfinite, rfl⟩ := scaledBytes?_eq_some_iff.mp hscaled
    refine ⟨_, Double.isNearest_ofDecimal (Double.isFinite_of_mul hfinite), ?_⟩
    obtain ⟨b, hb, hbfinite, hunits⟩ := u.ofInt_bytes
    rw [hb] at hfinite ⊢
    rw [Double.ofDecimal_eq] at hfinite ⊢
    rw [u.bytes_eq, Nat.cast_pow]
    exact Double.truncate_mul_pow hunits hbfinite hfinite

/-- A size of a byte or more stays one when it is rounded and cut. -/
theorem one_le_floor {u : SizeUnit} {v : ℚ} {x : Double} (hx : x.IsNearest v)
    (h : 1 ≤ v * u.bytes) : 1 ≤ ⌊x.value * u.bytes⌋₊ := by
  have hshift : u.shift ≤ 1022 := by cases u <;> decide
  -- one byte is a number of units that rounding does not touch
  obtain ⟨y, hy, hone⟩ := Double.exists_value_mul_pow_eq_one hshift
  have hbytes : (u.bytes : ℚ) = 2 ^ u.shift := by rw [u.bytes_eq, Nat.cast_pow, Nat.cast_ofNat]
  have hpos : (0 : ℚ) < 2 ^ u.shift := pow_pos two_pos _
  rw [hbytes] at h ⊢
  have hle : y.value ≤ v := le_of_mul_le_mul_right (hone.trans_le h) hpos
  apply Nat.le_floor
  rw [Nat.cast_one, ← hone]
  exact mul_le_mul_of_nonneg_right (hx.le_value hy hle) hpos.le

/-- The size in the settings is what the option is parsed to, and not negative. -/
theorem parseSize?_of_serverSettings {d : Document} {s : ServerSettings}
    (h : d.serverSettings = .ok s) :
    parseSize? (d.value .server "max_body_size") = some (s.maxBodySize : Int) :=
  (Document.serverSettings_eq_ok_iff.mp h).2.1

end JsonTap.Config
