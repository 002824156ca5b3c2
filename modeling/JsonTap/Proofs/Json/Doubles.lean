import JsonTap.Json.Printer
import JsonTap.Proofs.Json.Number
import JsonTap.Proofs.Number.Shortest

/-!
# Numbers that the printer writes

An integer is written as a numeral without fraction and exponent (`integer_numeral`). A finite
binary64 number is written as a numeral with one of them, and that numeral denotes the number again
(`double_numeral`), whichever way its digits are laid out.
-/

namespace JsonTap

/-! ## Significant digits -/

theorem Text.trimEnd_append (p : CodePoint → Bool) (t : Text) :
    Text.trimEnd p t ++ (t.reverse.takeWhile p).reverse = t := by
  rw [Text.trimEnd, ← List.reverse_append, List.takeWhile_append_dropWhile, List.reverse_reverse]

/-- Only zeros are cut off the end of some digits. -/
theorem Text.trimEnd_zeros (t : Text) :
    ∃ k, t = Text.trimEnd (· == '0') t ++ List.replicate k ('0' : CodePoint) := by
  have hzeros : ∀ c ∈ (t.reverse.takeWhile (· == ('0' : CodePoint))).reverse, c = '0' := by
    intro c hc
    exact beq_iff_eq.mp (List.all_eq_true.mp List.all_takeWhile c (List.mem_reverse.mp hc))
  refine ⟨(t.reverse.takeWhile (· == ('0' : CodePoint))).reverse.length, ?_⟩
  rw [← List.eq_replicate_of_mem hzeros, Text.trimEnd_append]

namespace Json

open Grammar Numeral

/-- Digits of which the first is not a zero. -/
def Significant (s : Text) : Prop := Digits s ∧ s.head? ≠ some ('0' : CodePoint)

theorem significant_ofNat {n : Nat} (hn : 0 < n) : Significant (Text.ofNat n) :=
  ⟨⟨Text.ofNat_ne_nil n, Text.isDigit_of_mem_ofNat n⟩, Text.head?_ofNat hn⟩

/-- The front of significant digits is significant. -/
theorem Significant.of_append {s u : Text} (hs : s ≠ []) (h : Significant (s ++ u)) :
    Significant s := by
  refine ⟨⟨hs, fun c hc => h.1.2 c (List.mem_append_left u hc)⟩, ?_⟩
  cases s with
  | nil => exact absurd rfl hs
  | cons c s => exact h.2

theorem isDigit_zeros (k : Nat) : ∀ c ∈ List.replicate k ('0' : CodePoint), c.isDigit = true := by
  intro c hc
  rw [List.eq_of_mem_replicate hc]
  rfl

theorem digits_append {s t : Text} (hs : ∀ c ∈ s, c.isDigit = true)
    (ht : ∀ c ∈ t, c.isDigit = true) : ∀ c ∈ s ++ t, c.isDigit = true := by
  intro c hc
  rcases List.mem_append.mp hc with hc | hc
  · exact hs c hc
  · exact ht c hc

/-- Zeros behind significant digits are harmless. -/
theorem Significant.append_zeros {s : Text} (h : Significant s) (k : Nat) :
    Significant (s ++ List.replicate k ('0' : CodePoint)) := by
  obtain ⟨⟨hne, hd⟩, h0⟩ := h
  refine ⟨⟨by simp [hne], digits_append hd (isDigit_zeros k)⟩, ?_⟩
  cases s with
  | nil => exact absurd rfl hne
  | cons c s => exact h0

/-- Significant digits lose only zeros at the end, and stay significant. -/
theorem Significant.trimEnd {t : Text} (h : Significant t) :
    Significant (Text.trimEnd (· == '0') t) := by
  obtain ⟨k, hk⟩ := Text.trimEnd_zeros t
  refine Significant.of_append ?_ (hk ▸ h)
  intro hnil
  rw [hnil, List.nil_append] at hk
  obtain ⟨⟨hne, -⟩, h0⟩ := h
  cases k with
  | zero => exact hne hk
  | succ k => exact h0 (by rw [hk]; rfl)

/-! ## Layouts of digits -/

/-- A numeral that has a fraction or an exponent, written `t`, denoting the decimal of some digits
whose first stands at `10 ^ lead`. -/
def Writes (negative : Bool) (digits : Text) (lead : Int) (t : Text) : Prop :=
  ∃ n : Numeral, IsNumber n ∧ n.isInteger = false ∧ n.text = minusText negative ++ t ∧
    n.double = Double.ofDecimal negative (Text.digitsValue digits) (lead + 1 - digits.length)

/-- A whole number with more zeros and the fraction zero. -/
theorem writes_whole (negative : Bool) {s : Text} {e : Nat} (hs : Significant s)
    (hlen : s.length ≤ e + 1) :
    Writes negative s e
      (s ++ List.replicate (e + 1 - s.length) ('0' : CodePoint) ++ Text.ofString ".0") := by
  obtain ⟨j, hj⟩ := Nat.exists_eq_add_of_le hlen
  have hzeros : e + 1 - s.length = j := by omega
  have hlead : ((e : Int) + 1 - s.length) = j := by omega
  rw [hzeros]
  refine ⟨⟨negative, s ++ List.replicate j ('0' : CodePoint), [('0' : CodePoint)], none⟩,
    ⟨.inr (hs.append_zeros j), isDigit_zeros 1, fun _ h => by cases h⟩, rfl, ?_, ?_⟩
  · rw [text_eq]
    rfl
  · have hvalue :
        Text.digitsValue (s ++ List.replicate j ('0' : CodePoint) ++ [('0' : CodePoint)]) =
          Text.digitsValue s * 10 ^ (j + 1) := by
      rw [List.append_assoc, ← List.replicate_succ', Text.digitsValue_append_zeros]
    show Double.ofDecimal negative (Text.digitsValue
      (s ++ List.replicate j ('0' : CodePoint) ++ [('0' : CodePoint)])) (0 - 1) = _
    rw [hvalue, hlead, ← Double.ofDecimal_mul_pow negative (Text.digitsValue s) (j + 1) j]
    congr 1
    push_cast
    omega

/-- Digits before and after a point. -/
theorem writes_point (negative : Bool) {s : Text} {e : Nat} (hs : Significant s)
    (hlen : e + 1 < s.length) :
    Writes negative s e (s.take (e + 1) ++ (('.' : CodePoint) :: s.drop (e + 1))) := by
  have hsplit := List.take_append_drop (e + 1) s
  have htake : s.take (e + 1) ≠ [] := by
    rw [← List.length_pos_iff, List.length_take]
    omega
  have hdrop : s.drop (e + 1) ≠ [] := by
    rw [← List.length_pos_iff, List.length_drop]
    omega
  refine ⟨⟨negative, s.take (e + 1), s.drop (e + 1), none⟩,
    ⟨.inr (Significant.of_append htake (hsplit.symm ▸ hs)), ?_, fun _ h => by cases h⟩, ?_, ?_, ?_⟩
  · exact fun c hc => hs.1.2 c (List.mem_of_mem_drop hc)
  · simp [isInteger, hdrop]
  · rw [text_eq]
    simp [fractionText, exponentText, hdrop]
  · show Double.ofDecimal negative (Text.digitsValue (s.take (e + 1) ++ s.drop (e + 1)))
      (0 - (s.drop (e + 1)).length) = _
    rw [hsplit, List.length_drop]
    congr 1
    omega

/-- A zero before the point, and more zeros after it. -/
theorem writes_small (negative : Bool) {s : Text} (e : Nat) (hs : Significant s) :
    Writes negative s (.negSucc e)
      (Text.ofString "0." ++ List.replicate e ('0' : CodePoint) ++ s) := by
  refine ⟨⟨negative, [('0' : CodePoint)], List.replicate e ('0' : CodePoint) ++ s, none⟩,
    ⟨.inl rfl, digits_append (isDigit_zeros e) hs.1.2, fun _ h => by cases h⟩, ?_, ?_, ?_⟩
  · simp [isInteger, hs.1.1]
  · rw [text_eq]
    simp [fractionText, exponentText, hs.1.1]
    rfl
  · have hvalue :
        Text.digitsValue ([('0' : CodePoint)] ++ (List.replicate e ('0' : CodePoint) ++ s)) =
          Text.digitsValue s := by
      rw [← List.append_assoc]
      exact Text.digitsValue_zeros_append s (e + 1)
    show Double.ofDecimal negative
      (Text.digitsValue ([('0' : CodePoint)] ++ (List.replicate e ('0' : CodePoint) ++ s)))
      (0 - (List.replicate e ('0' : CodePoint) ++ s).length) = _
    rw [hvalue, List.length_append, List.length_replicate]
    congr 1
    omega

theorem digits_padStart (least n : Nat) : Digits (Text.padStart least '0' (Text.ofNat n)) := by
  refine ⟨?_, digits_append (isDigit_zeros _) (Text.isDigit_of_mem_ofNat n)⟩
  simp [Text.padStart, Text.ofNat_ne_nil]

/-- The sign and the digits of an exponent. -/
def exponentOf (least : Nat) (lead : Int) : Exponent :=
  ⟨'e', some (if lead < 0 then '-' else '+'), Text.padStart least '0' (Text.ofNat lead.natAbs)⟩

theorem isExponent_exponentOf (least : Nat) (lead : Int) :
    IsExponent (exponentOf least lead) := by
  refine ⟨.inl rfl, ?_, digits_padStart _ _⟩
  rintro c ⟨⟩
  split
  · exact .inl rfl
  · exact .inr rfl

/-- An exponent in writing has its value. -/
theorem exponentValue_exponentOf (least : Nat) (lead : Int) :
    exponentValue (some (exponentOf least lead)) = lead := by
  have hvalue : Text.digitsValue (exponentOf least lead).digits = lead.natAbs := by
    rw [exponentOf, Text.digitsValue_padStart, Text.digitsValue_ofNat]
  rw [exponentValue, hvalue]
  by_cases h : lead < 0
  · rw [if_pos (by simp [exponentOf, h])]
    omega
  · rw [if_neg (by simp only [exponentOf, if_neg h]; decide)]
    omega

/-- One digit before the point, and an exponent. -/
theorem writes_scientific (negative : Bool) (least : Nat) {d : CodePoint} {ds : Text} (lead : Int)
    (hs : Significant (d :: ds)) :
    Writes negative (d :: ds) lead
      (d :: fractionText ds ++ exponentText (some (exponentOf least lead))) := by
  obtain ⟨⟨-, hd⟩, h0⟩ := hs
  refine ⟨⟨negative, [d], ds, some (exponentOf least lead)⟩, ⟨.inr ⟨⟨by simp, ?_⟩, h0⟩, ?_, ?_⟩,
    ?_, text_eq _, ?_⟩
  · exact fun c hc => hd c (List.mem_cons.mpr (.inl (List.mem_singleton.mp hc)))
  · exact fun c hc => hd c (List.mem_cons_of_mem d hc)
  · rintro e ⟨⟩
    exact isExponent_exponentOf least lead
  · simp [isInteger]
  · show Double.ofDecimal negative (Text.digitsValue (d :: ds))
      (exponentValue (some (exponentOf least lead)) - ds.length) = _
    rw [exponentValue_exponentOf, List.length_cons]
    congr 1
    push_cast
    omega

/-- Zeros behind the digits do not change what is written. -/
theorem Writes.append_zeros {negative : Bool} {s t : Text} {lead : Int} (k : Nat)
    (h : Writes negative s lead t) :
    Writes negative (s ++ List.replicate k ('0' : CodePoint)) lead t := by
  obtain ⟨n, hn, hi, ht, hdouble⟩ := h
  refine ⟨n, hn, hi, ht, hdouble.trans ?_⟩
  rw [Text.digitsValue_append_zeros, List.length_append, List.length_replicate,
    ← Double.ofDecimal_mul_pow negative (Text.digitsValue s) k]
  congr 1
  push_cast
  omega

/-- Whatever the layout, the digits that are shown are written as a number. -/
theorem writes_layOut {l : Double.Layout} (hl : l.wholeSuffix = Text.ofString ".0")
    (negative : Bool) {digits : Text} (hd : Significant digits) (lead : Int) :
    Writes negative digits lead (Double.layOut l digits lead) := by
  obtain ⟨k, hk⟩ := Text.trimEnd_zeros digits
  have hs := hd.trimEnd
  unfold Double.layOut
  dsimp only
  generalize Text.trimEnd (· == ('0' : CodePoint)) digits = s at hk hs ⊢
  -- the zeros that were cut off do not change what the digits denote
  rw [hk]
  apply Writes.append_zeros
  split
  · cases lead with
    | ofNat e =>
        dsimp only
        rw [hl]
        split
        · next hlen => exact writes_whole negative hs hlen
        · next hlen => exact writes_point negative hs (Nat.lt_of_not_le hlen)
    | negSucc e => exact writes_small negative e hs
  · cases s with
    | nil => exact absurd rfl hs.1.1
    | cons d ds =>
        cases ds with
        | nil => exact writes_scientific negative l.exponentDigits lead hs
        | cons d' ds => exact writes_scientific negative l.exponentDigits lead hs

/-! ## Numbers -/

theorem digits_pos_of_code {d : Double.Decimal} (h : 0 < d.code) : 0 < d.digits := by
  by_contra h0
  have hz : d.digits = 0 := by omega
  rw [Double.Decimal.code, hz] at h
  exact absurd h (Nat.lt_irrefl 0)

/-- The digits of a positive finite magnitude are written as a number that denotes it. -/
theorem magnitude_numeral {l : Double.Layout} (hl : l.wholeSuffix = Text.ofString ".0")
    (negative : Bool) {c : Fin (infinityCode + 1)} (hpos : 0 < c.val) (hlt : c.val < infinityCode) :
    ∃ n : Numeral, IsNumber n ∧ n.isInteger = false ∧
      n.text = minusText negative ++ Double.magnitudeText l c.val ∧
      n.double = .signed negative c := by
  have hcode := Double.shortest_code hlt
  rw [Double.magnitudeText]
  generalize Double.shortest c.val = d at hcode ⊢
  have hdigits : 0 < d.digits := digits_pos_of_code (by rwa [hcode])
  obtain ⟨n, hn, hi, ht, hdouble⟩ := writes_layOut hl negative (significant_ofNat hdigits)
    (d.exponent + (Text.ofNat d.digits).length - 1)
  refine ⟨n, hn, hi, ht, hdouble.trans ?_⟩
  -- the last digit stands where the exponent of the decimal says
  rw [Text.digitsValue_ofNat, Int.sub_add_cancel, Int.add_sub_cancel]
  exact Double.ofDecimal_of_code hcode negative

/-- A finite number is written as a number with a fraction or an exponent that denotes it. -/
theorem double_numeral {l : Double.Layout} (hl : l.wholeSuffix = Text.ofString ".0")
    {x : Double} (hx : x.isFinite = true) :
    ∃ n : Numeral, IsNumber n ∧ n.isInteger = false ∧ n.text = x.render l ∧ n.double = x := by
  cases x with
  | nan => cases hx
  | signed negative c =>
      have hlt : c.val < infinityCode := of_decide_eq_true hx
      have hminus : ∀ t, (if negative then ('-' : CodePoint) :: t else t) =
          minusText negative ++ t := by
        cases negative <;> simp [minusText]
      rw [Double.render, hminus, if_neg (Nat.ne_of_lt hlt)]
      by_cases h0 : c.val = 0
      · -- zero has no first significant digit, and is written apart
        rw [if_pos h0, hl]
        refine ⟨⟨negative, ['0'], ['0'], none⟩, ⟨.inl rfl, isDigit_zeros 1, fun _ h => by cases h⟩,
          rfl, text_eq _, ?_⟩
        show Double.signed negative 0 = _
        rw [show c = 0 from Fin.ext h0]
      · rw [if_neg h0]
        exact magnitude_numeral hl negative (Nat.pos_of_ne_zero h0) hlt

/-- An integer is written as a number without fraction and exponent that denotes it. -/
theorem integer_numeral (i : Int) :
    ∃ n : Numeral, IsNumber n ∧ n.isInteger = true ∧ n.text = Text.ofInt i ∧ n.integer = i := by
  have hwhole : ∀ k, Text.ofNat k = [('0' : CodePoint)] ∨
      Digits (Text.ofNat k) ∧ (Text.ofNat k).head? ≠ some ('0' : CodePoint) := by
    intro k
    rcases Nat.eq_zero_or_pos k with rfl | hk
    · exact .inl (Text.ofNat_of_lt (by decide))
    · exact .inr (significant_ofNat hk)
  cases i with
  | ofNat k =>
      refine ⟨⟨false, Text.ofNat k, [], none⟩, ⟨hwhole k, by simp, by simp⟩, rfl, ?_, ?_⟩
      · simp [text_eq, minusText, fractionText, exponentText, Text.ofInt]
      · simp [integer, Text.digitsValue_ofNat]
  | negSucc k =>
      refine ⟨⟨true, Text.ofNat (k + 1), [], none⟩, ⟨hwhole (k + 1), by simp, by simp⟩, rfl, ?_, ?_⟩
      · simp [text_eq, minusText, fractionText, exponentText, Text.ofInt]
      · simp [integer, Text.digitsValue_ofNat, Int.negSucc_eq]

end Json

end JsonTap
