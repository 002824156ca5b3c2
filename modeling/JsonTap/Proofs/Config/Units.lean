import JsonTap.Proofs.Config.Size
import JsonTap.Proofs.Number.Whole
import JsonTap.Proofs.Text.Case

/-!
# Whole sizes, with a unit and multiplied out

A whole number of units may have the suffix of the unit behind it, or be multiplied out. Multiplied
out it is given as it is written (`parseSize_padded`). With a unit the number is rounded to 53
significant binary digits first, and a product of `2 ^ 1024` or more is no size
(`parseSize_inUnits`). The two agree exactly where neither matters (`units_agree_with_product_iff`).
-/

namespace JsonTap.Config

open Double (FitsSignificand rounded)
open Unicode (Blanks Visible)

/-! ## Whole sizes in writing -/

inductive Padded (t : Text) : Text → Prop
  | mk {before after : Text} : Blanks before → Blanks after → Padded t (before ++ (t ++ after))

/-- A number of units in decimal, with the suffix of the unit in letters of either case behind it
and blanks around the two. -/
inductive InUnits (n : Nat) (u : SizeUnit) : Text → Prop
  | mk {suffix size : Text} : suffix.map CodePoint.upperAscii = u.suffix →
      Padded (Text.ofNat n ++ suffix) size → InUnits n u size

theorem Padded.strip {t size : Text} (h : Padded t size) (ht : Visible t) :
    Unicode.strip size = t := by
  obtain ⟨hbefore, hafter⟩ := h
  exact Text.trim_append hbefore hafter fun c hc => Unicode.isBlank_of_visible (ht c hc)

namespace SizeUnit

/-- A suffix has letters only, in either case. -/
theorem visible_of_map {suffix : Text} {u : SizeUnit}
    (h : suffix.map CodePoint.upperAscii = u.suffix) : Visible suffix := by
  have hupper : u.suffix.all (fun c => 0x41 ≤ c.val ∧ c.val ≤ 0x5A) = true := by
    cases u <;> decide
  intro c hc
  have hval := of_decide_eq_true
    (List.all_eq_true.mp hupper c.upperAscii (h ▸ List.mem_map_of_mem hc))
  unfold CodePoint.upperAscii at hval
  split at hval
  · omega
  · omega

/-- Digits end with no unit. -/
theorem ofEnd?_of_digits {t : Text} (h : Written.Digits t) : ofEnd? t = none := by
  rw [ofEnd?, List.find?_eq_none]
  intro u _ hend
  obtain ⟨numeral, rfl⟩ := endsWith_iff.mp hend
  have hdigits : Written.Digits u.suffix := fun c hc => h c (List.mem_append_right numeral hc)
  revert hdigits
  cases u <;> decide

end SizeUnit

/-- In upper case and without blanks a size is the number and the suffix. -/
theorem InUnits.upper_strip {n : Nat} {u : SizeUnit} {size : Text} (h : InUnits n u size) :
    Unicode.upper (Unicode.strip size) = Text.ofNat n ++ u.suffix := by
  obtain ⟨hsuffix, hsize⟩ := h
  have hdigits := Text.isDigit_of_mem_ofNat n
  have hletters := SizeUnit.visible_of_map hsuffix
  have hvisible := Unicode.visible_append.mpr ⟨Unicode.visible_of_digits hdigits, hletters⟩
  rw [hsize.strip hvisible, Unicode.upper_append, Unicode.upper_of_digits hdigits, hletters.upper,
    hsuffix]

/-- Without blanks a number is its digits. -/
theorem Padded.upper_strip {m : Nat} {size : Text} (h : Padded (Text.ofNat m) size) :
    Unicode.upper (Unicode.strip size) = Text.ofNat m := by
  have hdigits := Text.isDigit_of_mem_ofNat m
  rw [h.strip (Unicode.visible_of_digits hdigits), Unicode.upper_of_digits hdigits]

/-! ## What they are read as -/

def invalidSize (t : Text) : Fault :=
  .configuration (Text.ofString "Invalid size value: " ++ Text.quoted t) .null (.str t) []

theorem parseSize_of_some {t : Text} {n : Int} (h : parseSize? t = some n) :
    parseSize t = .ok n := by
  rw [parseSize, h]

theorem parseSize_of_none {t : Text} (h : parseSize? t = none) :
    parseSize t = .error (invalidSize t) := by
  rw [parseSize, h]
  rfl

/-- A size that is multiplied out is given as it is written. -/
theorem parseSize_padded {m : Nat} {size : Text} (hsize : Padded (Text.ofNat m) size)
    (hdigits : Text.digitCount m ≤ Written.integerDigits) : parseSize size = .ok (m : Int) := by
  apply parseSize_of_some
  have hall : Written.Digits (Text.ofNat m) := Text.isDigit_of_mem_ofNat m
  rw [parseSize?, hsize.upper_strip, sizeOfUpper?, SizeUnit.ofEnd?_of_digits hall]
  dsimp only
  rw [Written.int?_of_digits hall (Text.ofNat_ne_nil m) hdigits, Text.digitsValue_ofNat]

/-- A whole number of units is the rounded number times the unit, if it does not overflow. -/
theorem scaledBytes?_whole (n : Nat) (u : SizeUnit) :
    scaledBytes? (.ofRatio false n 1) u =
      if rounded n * u.bytes < 2 ^ 1024 then some ((rounded n * u.bytes : Nat) : Int)
      else none := by
  obtain ⟨b, hb, hbfinite, hunits⟩ := u.ofInt_bytes
  have hfinite := Double.isFinite_whole_mul_iff hunits hbfinite n
  unfold scaledBytes?
  dsimp only
  rw [hb, u.bytes_eq]
  split
  · next h =>
    rw [if_pos (hfinite.mp h), Double.truncate_whole_mul hunits hbfinite (hfinite.mp h)]
  · next h => rw [if_neg (mt hfinite.mpr h)]

/-- A whole number is read as the double nearest to it. -/
theorem double?_ofNat (n : Nat) : Written.double? (Text.ofNat n) = some (.ofRatio false n 1) := by
  rw [Written.double?_of_digits (Text.isDigit_of_mem_ofNat n) (Text.ofNat_ne_nil n),
    Text.digitsValue_ofNat, Double.ofDecimal_eq]
  simp

/-- A size with a unit is the rounded number times the unit, and no size if that overflows. -/
theorem parseSize_inUnits {n : Nat} {u : SizeUnit} {size : Text} (h : InUnits n u size) :
    parseSize size =
      if rounded n * u.bytes < 2 ^ 1024 then .ok ((rounded n * u.bytes : Nat) : Int)
      else .error (invalidSize size) := by
  have hparse : parseSize? size = scaledBytes? (.ofRatio false n 1) u := by
    rw [parseSize?, h.upper_strip, sizeOfUpper?_append, double?_ofNat, Option.bind_some]
  rw [scaledBytes?_whole] at hparse
  split at hparse
  · next hlt => rw [if_pos hlt, parseSize_of_some hparse]
  · next hge => rw [if_neg hge, parseSize_of_none hparse]

/-! ## When the two agree -/

/-- **With a unit and multiplied out.** The product is given as it is written. With the unit the
number is rounded to 53 significant binary digits and then multiplied, and what comes to `2 ^ 1024`
or more is refused. So the two give the same exactly if the number has 53 such digits at most and
the product is below `2 ^ 1024`. -/
theorem units_agree_with_product_iff {n : Nat} {u : SizeUnit} {size product : Text}
    (hsize : InUnits n u size) (hproduct : Padded (Text.ofNat (n * u.bytes)) product)
    (hdigits : Text.digitCount (n * u.bytes) ≤ Written.integerDigits) :
    parseSize product = .ok ((n * u.bytes : Nat) : Int) ∧
      parseSize size =
        (if rounded n * u.bytes < 2 ^ 1024 then .ok ((rounded n * u.bytes : Nat) : Int)
        else .error (invalidSize size)) ∧
      (parseSize size = parseSize product ↔ FitsSignificand n ∧ n * u.bytes < 2 ^ 1024) := by
  have hplain := parseSize_padded hproduct hdigits
  have hscaled := parseSize_inUnits hsize
  refine ⟨hplain, hscaled, ?_⟩
  rw [hplain, hscaled, ← Double.rounded_eq_self_iff]
  have hbytes : 0 < u.bytes := by cases u <;> decide
  constructor
  · intro h
    split at h
    · next hlt =>
      have hsame : rounded n * u.bytes = n * u.bytes := by
        exact_mod_cast Except.ok.inj h
      exact ⟨Nat.eq_of_mul_eq_mul_right hbytes hsame, hsame ▸ hlt⟩
    · cases h
  · rintro ⟨hexact, hlt⟩
    rw [hexact, if_pos hlt]

theorem padded_of_eq {t size : Text} (before after : Text) (hsize : size = before ++ (t ++ after))
    (hbefore : Blanks before) (hafter : Blanks after) : Padded t size :=
  hsize ▸ .mk hbefore hafter

theorem inUnits_of_eq {n : Nat} {u : SizeUnit} {size : Text} (before suffix after : Text)
    (hsize : size = before ++ (Text.ofNat n ++ suffix ++ after)) (hbefore : Blanks before)
    (hsuffix : suffix.map CodePoint.upperAscii = u.suffix) (hafter : Blanks after) :
    InUnits n u size :=
  .mk hsuffix (padded_of_eq before after hsize hbefore hafter)

/-- A number above `2 ^ 53` with 53 significant digits. -/
theorem units_agree_with_product_gigabytes :
    InUnits 9007199254740994 .gigabyte " 9007199254740994gB\n" ∧
      Padded (Text.ofNat (9007199254740994 * SizeUnit.gigabyte.bytes))
        "9671406556917035545133056" ∧
      Text.digitCount (9007199254740994 * SizeUnit.gigabyte.bytes) ≤ Written.integerDigits ∧
      parseSize " 9007199254740994gB\n" = parseSize "9671406556917035545133056" := by
  have hsize : InUnits 9007199254740994 .gigabyte " 9007199254740994gB\n" :=
    inUnits_of_eq " " "gB" "\n" (by decide +kernel) (by decide) (by decide) (by decide)
  have hproduct : Padded (Text.ofNat (9007199254740994 * SizeUnit.gigabyte.bytes))
      "9671406556917035545133056" :=
    padded_of_eq [] [] (by decide +kernel) (by decide) (by decide)
  have hdigits : Text.digitCount (9007199254740994 * SizeUnit.gigabyte.bytes) ≤
      Written.integerDigits := by decide +kernel
  refine ⟨hsize, hproduct, hdigits, ?_⟩
  apply (units_agree_with_product_iff hsize hproduct hdigits).2.2.mpr
  exact ⟨⟨4503599627370497, 1, by decide, rfl⟩, by decide +kernel⟩

/-- The number after `2 ^ 53` has one digit more, which it loses with a unit. -/
theorem units_lose_a_digit :
    InUnits 9007199254740993 .kilobyte "9007199254740993KB" ∧
      Padded (Text.ofNat (9007199254740993 * SizeUnit.kilobyte.bytes)) "9223372036854776832" ∧
      Text.digitCount (9007199254740993 * SizeUnit.kilobyte.bytes) ≤ Written.integerDigits ∧
      parseSize "9007199254740993KB" = .ok 9223372036854775808 ∧
      parseSize "9223372036854776832" = .ok 9223372036854776832 := by
  refine ⟨inUnits_of_eq [] "KB" [] ?_ (by decide) (by decide) (by decide),
    padded_of_eq [] [] ?_ (by decide) (by decide), ?_, ?_, ?_⟩
  · decide +kernel
  · decide +kernel
  · decide +kernel
  · exact toOption_eq_some_iff.mp (by decide +kernel)
  · exact toOption_eq_some_iff.mp (by decide +kernel)

end JsonTap.Config
