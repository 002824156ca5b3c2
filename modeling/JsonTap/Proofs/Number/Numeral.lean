import JsonTap.Number.Written
import JsonTap.Proofs.Json.Number
import JsonTap.Proofs.Text.Decimal
import JsonTap.Proofs.Text.Split
import Mathlib.Algebra.Order.Field.Basic
import Mathlib.Algebra.Order.Field.Rat

/-!
# Decimal numerals of settings

A numeral is a sign, digits with a point somewhere among them, and an exponent; `Numeral` tells what
it denotes. The readers of settings take numerals only, once blanks, scripts and underscores are
settled (`Plain`), and give back what they denote: an integer is given exactly, and any other number
as the binary64 number of its digits and its exponent (`int?_of_numeral`, `double?_of_numeral`).
Digits alone are always read, but for an integer of too many (`int?_of_digits`,
`double?_of_digits`).
-/

namespace JsonTap.Written

open Json.Numeral (NoDigit takeWhile_digits dropWhile_digits digit_of_mem_takeWhile ne_of_isDigit)

/-! ## The grammar -/

inductive SignText : Bool → Text → Prop
  | none : SignText false []
  | plus : SignText false ['+']
  | minus : SignText true ['-']

def Digits (t : Text) : Prop := ∀ c ∈ t, c.isDigit = true

instance (t : Text) : Decidable (Digits t) :=
  decidable_of_iff (t.all CodePoint.isDigit = true) List.all_eq_true

/-- The digits after a point, with the point. -/
inductive FractionText : Text → Text → Prop
  | none : FractionText [] []
  | point {ds : Text} : Digits ds → FractionText ds (('.' : CodePoint) :: ds)

/-- An integer with a sign of its own. -/
def signed (negative : Bool) (n : Nat) : Int := if negative then -(n : Int) else n

/-- An exponent in writing, with its letter. -/
inductive ExponentText : Int → Text → Prop
  | none : ExponentText 0 []
  | letter {c : CodePoint} {negative : Bool} {s ds : Text} : c = 'e' ∨ c = 'E' →
      SignText negative s → ds ≠ [] → Digits ds →
      ExponentText (signed negative (Text.digitsValue ds)) (c :: (s ++ ds))

/-- Digits, a point and an exponent in writing; all digits are counted as one number, and the
exponent with those after the point. -/
inductive Unsigned : Text → (digits : Nat) → (exponent : Int) → Prop
  | mk {whole fraction f x : Text} {e : Int} : Digits whole → FractionText fraction f →
      whole ++ fraction ≠ [] → ExponentText e x →
      Unsigned (whole ++ (f ++ x)) (Text.digitsValue (whole ++ fraction)) (e - fraction.length)

def decimal (negative : Bool) (digits : Nat) (exponent : Int) : ℚ :=
  (signed negative digits : ℚ) * 10 ^ exponent

theorem negative_of_decimal_pos {negative : Bool} {digits : Nat} {exponent : Int}
    (h : 0 < decimal negative digits exponent) : negative = false := by
  cases negative with
  | false => rfl
  | true =>
    have hle : decimal true digits exponent ≤ 0 := by
      apply mul_nonpos_of_nonpos_of_nonneg
      · simp [signed]
      · exact zpow_nonneg (by norm_num) _
    exact absurd h (not_lt.mpr hle)

/-- A numeral, and the number that it denotes. -/
inductive Numeral : Text → ℚ → Prop
  | mk {negative : Bool} {s t : Text} {digits : Nat} {exponent : Int} : SignText negative s →
      Unsigned t digits exponent → Numeral (s ++ t) (decimal negative digits exponent)

/-- A numeral without sign and exponent. -/
theorem Numeral.of_digits {whole fraction f : Text} (hwhole : Digits whole)
    (hf : FractionText fraction f) (hne : whole ++ fraction ≠ []) :
    Numeral (whole ++ f) (Text.digitsValue (whole ++ fraction) / 10 ^ fraction.length) := by
  have h := Numeral.mk .none (Unsigned.mk hwhole hf hne .none)
  have hvalue : decimal false (Text.digitsValue (whole ++ fraction)) (0 - fraction.length) =
      Text.digitsValue (whole ++ fraction) / 10 ^ fraction.length := by
    rw [decimal, zero_sub, zpow_neg, zpow_natCast, ← div_eq_mul_inv]
    rfl
  rwa [hvalue, List.append_nil] at h

/-! ## Signs -/

def NoSign (t : Text) : Prop := t.head? ≠ some ('-' : CodePoint) ∧ t.head? ≠ some ('+' : CodePoint)

theorem sign_append {negative : Bool} {s t : Text} (hs : SignText negative s) (ht : NoSign t) :
    sign (s ++ t) = (negative, t) := by
  cases hs with
  | none =>
    cases t with
    | nil => rfl
    | cons c r =>
      obtain ⟨hminus, hplus⟩ := ht
      rw [List.head?_cons, Ne, Option.some.injEq] at hminus hplus
      show sign (c :: r) = _
      rw [sign, if_neg hminus, if_neg hplus]
  | plus => rfl
  | minus => rfl

theorem sign_eq (t : Text) : ∃ s, SignText (sign t).1 s ∧ t = s ++ (sign t).2 := by
  cases t with
  | nil => exact ⟨[], .none, rfl⟩
  | cons c r =>
    unfold sign
    dsimp only
    split
    · next h => exact ⟨_, .minus, by rw [h]; rfl⟩
    · split
      · next h => exact ⟨_, .plus, by rw [h]; rfl⟩
      · exact ⟨[], .none, rfl⟩

theorem Digits.noSign {ds t : Text} (h : Digits ds) (hne : ds ≠ []) : NoSign (ds ++ t) := by
  cases ds with
  | nil => exact absurd rfl hne
  | cons c r =>
    obtain ⟨hminus, hplus, -⟩ := ne_of_isDigit (h c List.mem_cons_self)
    exact ⟨fun hc => hminus (Option.some.inj hc), fun hc => hplus (Option.some.inj hc)⟩

/-! ## Exponents -/

theorem exponent?_eq_some_iff {t : Text} {e : Int} : exponent? t = some e ↔ ExponentText e t := by
  constructor
  · intro h
    cases t with
    | nil =>
      cases h
      exact .none
    | cons c r =>
      rw [exponent?] at h
      split at h
      · next hletter =>
        -- what follows the letter is a sign and at least one digit
        obtain ⟨s, hs, hr⟩ := sign_eq r
        generalize sign r = signAndDigits at h hs hr
        obtain ⟨negative, ds⟩ := signAndDigits
        cases ds with
        | nil => cases h
        | cons d ds =>
          dsimp only at h hs hr
          split at h
          · next hdigits =>
            cases h
            rw [hr]
            exact .letter (by simpa using hletter) hs (List.cons_ne_nil d ds)
              (List.all_eq_true.mp hdigits)
          · cases h
      · cases h
  · intro h
    cases h with
    | none => rfl
    | @letter c negative s ds hletter hs hne hdigits =>
      -- the digits cannot be taken for a sign
      have hsign : sign (s ++ ds) = (negative, ds) := by
        apply sign_append hs
        rw [← List.append_nil ds]
        exact hdigits.noSign hne
      obtain ⟨d, ds, rfl⟩ := List.exists_cons_of_ne_nil hne
      have hall : (d :: ds).all CodePoint.isDigit = true := List.all_eq_true.mpr hdigits
      rw [exponent?, if_pos (by simpa using hletter), hsign]
      dsimp only
      rw [if_pos hall]
      rfl

theorem ExponentText.noDigit {e : Int} {x : Text} (h : ExponentText e x) : NoDigit x := by
  intro c t hx
  cases h with
  | none => cases hx
  | letter hletter =>
    cases hx
    rcases hletter with rfl | rfl <;> decide

/-! ## Digits, point and exponent -/

/-- The digits after a point at the front of a text, and the rest. -/
def fraction (t : Text) : Text × Text :=
  match t with
  | c :: r =>
    if c = '.' then (r.takeWhile CodePoint.isDigit, r.dropWhile CodePoint.isDigit) else ([], t)
  | [] => ([], t)

theorem magnitude?_eq (negative : Bool) (t : Text) :
    magnitude? negative t =
      if ((t.takeWhile CodePoint.isDigit).isEmpty &&
          (fraction (t.dropWhile CodePoint.isDigit)).1.isEmpty) = true then none
      else (exponent? (fraction (t.dropWhile CodePoint.isDigit)).2).map fun e =>
        .ofDecimal negative
          (Text.digitsValue
            (t.takeWhile CodePoint.isDigit ++ (fraction (t.dropWhile CodePoint.isDigit)).1))
          (e - (fraction (t.dropWhile CodePoint.isDigit)).1.length) :=
  rfl

theorem digits_takeWhile (t : Text) : Digits (t.takeWhile CodePoint.isDigit) :=
  fun _ hc => digit_of_mem_takeWhile hc

theorem fraction_eq (t : Text) : ∃ f, FractionText (fraction t).1 f ∧ t = f ++ (fraction t).2 := by
  cases t with
  | nil => exact ⟨[], .none, rfl⟩
  | cons c r =>
    unfold fraction
    dsimp only
    split
    · next hc =>
      refine ⟨_, .point (digits_takeWhile r), ?_⟩
      rw [hc, List.cons_append, List.takeWhile_append_dropWhile]
    · exact ⟨[], .none, rfl⟩

theorem fraction_append {ds f x : Text} {e : Int} (hf : FractionText ds f)
    (hx : ExponentText e x) : fraction (f ++ x) = (ds, x) := by
  cases hf with
  | none =>
    cases hx with
    | none => rfl
    | @letter c negative s ds hletter hs hds hdigits =>
      have hpoint : c ≠ '.' := by rcases hletter with rfl | rfl <;> decide
      exact if_neg hpoint
  | point hds =>
    show ((ds ++ x).takeWhile CodePoint.isDigit, (ds ++ x).dropWhile CodePoint.isDigit) = _
    rw [takeWhile_digits hds hx.noDigit, dropWhile_digits hds hx.noDigit]

theorem FractionText.noDigit {ds f x : Text} {e : Int} (hf : FractionText ds f)
    (hx : ExponentText e x) : NoDigit (f ++ x) := by
  cases hf with
  | none => exact hx.noDigit
  | point _ =>
    intro c t hc
    cases hc
    decide

/-- What is read as a magnitude is what is written in digits. -/
theorem magnitude?_eq_some_iff {negative : Bool} {t : Text} {y : Double} :
    magnitude? negative t = some y ↔
      ∃ digits exponent, Unsigned t digits exponent ∧ y = .ofDecimal negative digits exponent := by
  constructor
  · intro h
    have hwhole := digits_takeWhile t
    have ht := List.takeWhile_append_dropWhile (p := CodePoint.isDigit) (l := t)
    obtain ⟨f, hf, hafter⟩ := fraction_eq (t.dropWhile CodePoint.isDigit)
    rw [magnitude?_eq] at h
    split at h
    · cases h
    · next hnonempty =>
      obtain ⟨e, he, rfl⟩ := Option.map_eq_some_iff.mp h
      refine ⟨_, _, ?_, rfl⟩
      have hunsigned := Unsigned.mk hwhole hf (by simpa [and_imp] using hnonempty)
        (exponent?_eq_some_iff.mp he)
      rwa [← hafter, ht] at hunsigned
  · rintro ⟨digits, exponent, ⟨hwhole, hf, hne, hx⟩, rfl⟩
    rw [magnitude?_eq, takeWhile_digits hwhole (hf.noDigit hx),
      dropWhile_digits hwhole (hf.noDigit hx), fraction_append hf hx, if_neg (by simpa using hne),
      exponent?_eq_some_iff.mpr hx]
    rfl

theorem Digits.unsigned {ds : Text} (h : Digits ds) (hne : ds ≠ []) :
    Unsigned ds (Text.digitsValue ds) 0 := by
  have hunsigned := Unsigned.mk h .none (by rwa [List.append_nil]) .none
  simpa using hunsigned

theorem Unsigned.read {t : Text} {digits : Nat} {exponent : Int}
    (h : Unsigned t digits exponent) :
    digits = Text.digitsValue
        (t.takeWhile CodePoint.isDigit ++ (fraction (t.dropWhile CodePoint.isDigit)).1) ∧
      exponent? (fraction (t.dropWhile CodePoint.isDigit)).2 =
        some (exponent + (fraction (t.dropWhile CodePoint.isDigit)).1.length) := by
  obtain ⟨hwhole, hf, -, hx⟩ := h
  rw [takeWhile_digits hwhole (hf.noDigit hx), dropWhile_digits hwhole (hf.noDigit hx),
    fraction_append hf hx, exponent?_eq_some_iff.mpr hx]
  exact ⟨rfl, congrArg some (Int.sub_add_cancel _ _).symm⟩

theorem Unsigned.unique {t : Text} {digits digits' : Nat} {exponent exponent' : Int}
    (h : Unsigned t digits exponent) (h' : Unsigned t digits' exponent') :
    digits = digits' ∧ exponent = exponent' := by
  obtain ⟨hdigits, hexponent⟩ := h.read
  obtain ⟨hdigits', hexponent'⟩ := h'.read
  have he := Option.some.inj (hexponent.symm.trans hexponent')
  exact ⟨hdigits.trans hdigits'.symm, by omega⟩

/-- What is written in digits begins with a digit or a point. -/
theorem Unsigned.head {t : Text} {digits : Nat} {exponent : Int} (h : Unsigned t digits exponent) :
    ∃ c r, t = c :: r ∧ (c.isDigit = true ∨ c = '.') := by
  obtain ⟨hwhole, hf, hne, -⟩ := h
  rename_i whole fraction f x e
  cases whole with
  | cons c r => exact ⟨c, _, rfl, .inl (hwhole c List.mem_cons_self)⟩
  | nil =>
    cases hf with
    | none => exact absurd rfl hne
    | point _ => exact ⟨'.', _, rfl, .inr rfl⟩

theorem Unsigned.noSign {t : Text} {digits : Nat} {exponent : Int}
    (h : Unsigned t digits exponent) : NoSign t := by
  obtain ⟨c, r, rfl, hc⟩ := h.head
  have hne : c ≠ '-' ∧ c ≠ '+' := by
    rcases hc with hdigit | rfl
    · exact ⟨(ne_of_isDigit hdigit).1, (ne_of_isDigit hdigit).2.1⟩
    · decide
  exact ⟨fun h => hne.1 (Option.some.inj h), fun h => hne.2 (Option.some.inj h)⟩

theorem Numeral.read {t : Text} {q : ℚ} (h : Numeral t q) :
    ∃ digits exponent, Unsigned (sign t).2 digits exponent ∧
      q = decimal (sign t).1 digits exponent := by
  obtain ⟨hs, ht⟩ := h
  rw [sign_append hs ht.noSign]
  exact ⟨_, _, ht, rfl⟩

/-- A numeral denotes one number. -/
theorem Numeral.unique {t : Text} {q q' : ℚ} (h : Numeral t q) (h' : Numeral t q') : q = q' := by
  obtain ⟨digits, exponent, ht, rfl⟩ := h.read
  obtain ⟨digits', exponent', ht', rfl⟩ := h'.read
  obtain ⟨rfl, rfl⟩ := ht.unique ht'
  rfl

/-! ## Blanks, scripts and underscores -/

/-- The text as plain characters, without blanks around it and underscores between its digits. -/
def Plain (t p : Text) : Prop := dropUnderscores? false (normalize t) = some p

instance (t p : Text) : Decidable (Plain t p) :=
  inferInstanceAs (Decidable (dropUnderscores? false (normalize t) = some p))

theorem dropUnderscores?_append_of_sign {negative : Bool} {s : Text} (hs : SignText negative s)
    (t : Text) : dropUnderscores? false (s ++ t) = (dropUnderscores? false t).map (s ++ ·) := by
  cases hs with
  | none => simp
  | plus => cases t <;> rfl
  | minus => cases t <;> rfl

/-- An integer is given as it is written. -/
theorem numeral_of_int? {t : Text} {n : Int} (h : int? t = some n) :
    ∃ p, Plain t p ∧ Numeral p n := by
  obtain ⟨s, hs, ht⟩ := sign_eq (normalize t)
  unfold int? at h
  generalize sign (normalize t) = signAndBody at h hs ht
  obtain ⟨negative, body⟩ := signAndBody
  dsimp only at h hs ht
  split at h
  · cases h
  · cases h
  · next ds hne hds =>
    split at h
    · next hdigits =>
      obtain ⟨hall, -⟩ := (Bool.and_eq_true _ _).mp hdigits
      cases h
      refine ⟨s ++ ds, ?_, ?_⟩
      · rw [Plain, ht, dropUnderscores?_append_of_sign hs, hds]
        rfl
      · have hunsigned := Digits.unsigned (List.all_eq_true.mp hall) hne
        have hvalue : decimal negative (Text.digitsValue ds) 0 =
            (signed negative (Text.digitsValue ds) : ℚ) := by
          rw [decimal, zpow_zero, mul_one]
        have hnumeral := Numeral.mk hs hunsigned
        rw [hvalue] at hnumeral
        exact hnumeral
    · cases h

/-- An integer that is read is what the numeral denotes. -/
theorem int?_of_numeral {t p : Text} {n : Int} {q : ℚ} (hp : Plain t p) (hq : Numeral p q)
    (h : int? t = some n) : q = n := by
  obtain ⟨p', hp', hn⟩ := numeral_of_int? h
  obtain rfl : p = p' := Option.some.inj (hp.symm.trans hp')
  exact hq.unique hn

theorem lowerAscii_of_lt {c : CodePoint} (h : c.val < 0x41) : c.lowerAscii = c :=
  dif_neg fun hc => absurd hc.1 (Nat.not_le.mpr h)

/-- What begins with a digit or a point is none of the names of infinity and not-a-number. -/
theorem Unsigned.no_name {t : Text} {digits : Nat} {exponent : Int}
    (h : Unsigned t digits exponent) (name : String)
    (hname : (Text.ofString name).head? = some ('n' : CodePoint) ∨
      (Text.ofString name).head? = some ('i' : CodePoint)) :
    t.map CodePoint.lowerAscii ≠ Text.ofString name := by
  obtain ⟨c, r, rfl, hc⟩ := h.head
  have hlow : c.val < 0x41 ∧ c ≠ 'n' ∧ c ≠ 'i' := by
    rcases hc with hdigit | rfl
    · have hval := Text.val_of_isDigit hdigit
      refine ⟨by omega, ?_, ?_⟩
      all_goals
        rintro rfl
        exact absurd hdigit (by decide)
    · decide
  intro htext
  rw [← htext, List.map_cons, List.head?_cons, lowerAscii_of_lt hlow.1, Option.some.injEq,
    Option.some.injEq] at hname
  exact hname.elim hlow.2.1 hlow.2.2

/-- A sign and what is written in digits are read as the number of the digits and the exponent. -/
theorem double?_of_unsigned {t s p : Text} {negative : Bool} {digits : Nat} {exponent : Int}
    (hplain : Plain t (s ++ p)) (hs : SignText negative s) (hp : Unsigned p digits exponent) :
    double? t = some (.ofDecimal negative digits exponent) := by
  have hnan := hp.no_name "nan" (.inl (by decide))
  have hinf := hp.no_name "inf" (.inr (by decide))
  have hinfinity := hp.no_name "infinity" (.inr (by decide))
  unfold double?
  rw [hplain]
  dsimp only
  rw [sign_append hs hp.noSign]
  dsimp only
  rw [if_neg hnan, if_neg (by simp [hinf, hinfinity])]
  exact magnitude?_eq_some_iff.mpr ⟨digits, exponent, hp, rfl⟩

/-- A numeral is read as the number of its digits and its exponent. -/
theorem double?_of_numeral {t p : Text} {q : ℚ} (hp : Plain t p) (hq : Numeral p q) :
    ∃ negative digits exponent, q = decimal negative digits exponent ∧
      double? t = some (.ofDecimal negative digits exponent) := by
  obtain ⟨hs, ht⟩ := hq
  exact ⟨_, _, _, rfl, double?_of_unsigned hp hs ht⟩

/-- A finite number that is read is written as a numeral. -/
theorem numeral_of_double? {t : Text} {y : Double} (h : double? t = some y)
    (hfinite : y.isFinite = true) : ∃ p q, Plain t p ∧ Numeral p q := by
  unfold double? at h
  split at h
  · cases h
  · next p hp =>
    dsimp only at h
    split at h
    · cases h
      cases hfinite
    · split at h
      · cases h
        have hcode : (Double.clamp infinityCode).val = infinityCode := by decide
        rw [Double.isFinite, hcode] at hfinite
        simp at hfinite
      · obtain ⟨s, hs, hsign⟩ := sign_eq p
        obtain ⟨digits, exponent, ht, -⟩ := magnitude?_eq_some_iff.mp h
        have hnumeral := Numeral.mk hs ht
        rw [← hsign] at hnumeral
        exact ⟨p, _, hp, hnumeral⟩

/-! ## Plain digits -/

section

variable {ds : Text}

theorem plain_of_isDigit {c : CodePoint} (h : c.isDigit = true) : plain c = c := by
  have hval := Text.val_of_isDigit h
  exact if_pos (by omega)

theorem isOuterBlank_of_isDigit {c : CodePoint} (h : c.isDigit = true) :
    isOuterBlank c = false := by
  have hval := Text.val_of_isDigit h
  have hne : c ≠ ' ' := by
    rintro rfl
    exact absurd h (by decide)
  simp only [isOuterBlank, Bool.or_eq_false_iff, Bool.and_eq_false_iff, decide_eq_false_iff_not]
  exact ⟨by omega, hne⟩

theorem Digits.normalize (h : Digits ds) : normalize ds = ds := by
  have hmap : ds.map Written.plain = ds.map id :=
    List.map_congr_left fun c hc => plain_of_isDigit (h c hc)
  rw [Written.normalize, hmap, List.map_id,
    Text.trim_eq_self fun c hc => isOuterBlank_of_isDigit (h c hc)]

theorem Digits.dropUnderscores? (h : Digits ds) (before : Bool) :
    dropUnderscores? before ds = some ds := by
  induction ds generalizing before with
  | nil => rfl
  | cons c r ih =>
    obtain ⟨hc, hr⟩ := List.forall_mem_cons.mp h
    have hne : c ≠ '_' := by
      rintro rfl
      exact absurd hc (by decide)
    cases r with
    | nil => rw [Written.dropUnderscores?, if_neg hne]
    | cons d r => rw [Written.dropUnderscores?, if_neg hne, ih hr, Option.map_some]

theorem Digits.plain (h : Digits ds) : Plain ds ds := by
  rw [Plain, h.normalize, h.dropUnderscores?]

/-- Digits are read as the integer that they denote, if they are not too many. -/
theorem int?_of_digits (h : Digits ds) (hne : ds ≠ []) (hlength : ds.length ≤ integerDigits) :
    int? ds = some (Text.digitsValue ds : Int) := by
  have hsign : sign ds = (false, ds) := sign_append .none (h.unsigned hne).noSign
  have hall : ds.all CodePoint.isDigit = true := List.all_eq_true.mpr h
  unfold int?
  rw [h.normalize, hsign]
  dsimp only
  rw [h.dropUnderscores?]
  obtain ⟨d, r, rfl⟩ := List.exists_cons_of_ne_nil hne
  dsimp only
  rw [if_pos (by simp only [hall, hlength, decide_true, Bool.and_self])]
  rfl

/-- Digits are read as the nearest binary64 number. -/
theorem double?_of_digits (h : Digits ds) (hne : ds ≠ []) :
    double? ds = some (.ofDecimal false (Text.digitsValue ds) 0) :=
  double?_of_unsigned (s := []) h.plain .none (h.unsigned hne)

end

end JsonTap.Written
