import JsonTap.Number.Shortest

/-!
# Numbers with a given count of digits

`Double.fixed` writes a number with a given count of decimal places, `Double.scientific` with a
given count of significant digits and an exponent, `Double.general` chooses between the two by the
size of the number. Digits are those of the exact value, rounded once with ties to even.
-/

namespace JsonTap.Double

/-- A finite magnitude times `10 ^ places`, rounded to an integer. -/
def atPlaces (code : Nat) (places : Int) : Nat :=
  match places with
  | .ofNat p => roundHalfEven (units code * Nat.pow 10 p) unitsPerOne
  | .negSucc p => roundHalfEven (units code) (unitsPerOne * Nat.pow 10 (p + 1))

/-- The first `count` significant digits of a finite magnitude, as a number, and the exponent of
the first of them. Zero has the exponent zero. -/
def significant (code : Nat) (count : Nat) : Nat × Int :=
  if code = 0 then (0, 0)
  else
    let lead := leadingExponent code
    let n := atPlaces code ((count : Int) - 1 - lead)
    if n < Nat.pow 10 count then (n, lead) else (n / 10, lead + 1)

/-- Digits with a point after the first of them. -/
def pointed (keepPoint : Bool) (whole fraction : Text) : Text :=
  if fraction.isEmpty && !keepPoint then whole else whole ++ (('.' : CodePoint) :: fraction)

def fixed (keepPoint : Bool) (places : Nat) (code : Nat) : Text :=
  let digits := Text.padStart (places + 1) '0' (Text.ofNat (atPlaces code places))
  let cut := digits.length - places
  pointed keepPoint (digits.take cut) (digits.drop cut)

/-- An exponent with its letter, its sign and at least two digits. -/
def exponentSuffix (e : Int) : Text :=
  ('e' : CodePoint) :: (if e < 0 then '-' else '+' : CodePoint) ::
    Text.padStart 2 '0' (Text.ofNat e.natAbs)

/-- A finite magnitude as one digit, `places` decimal places and an exponent. -/
def scientific (keepPoint : Bool) (places : Nat) (code : Nat) : Text :=
  let (n, e) := significant code (places + 1)
  let digits := Text.padStart (places + 1) '0' (Text.ofNat n)
  pointed keepPoint (digits.take 1) (digits.drop 1) ++ exponentSuffix e

/-- A finite magnitude with `count` significant digits, positional unless it is very small or has
more digits before the point. Zeros at the end of a fraction are left out unless `keepZeros`. -/
def general (keepZeros : Bool) (count : Nat) (code : Nat) : Text :=
  let count := max count 1
  let (n, e) := significant code count
  let digits := Text.padStart count '0' (Text.ofNat n)
  let tidy (fraction : Text) : Text :=
    if keepZeros then fraction else Text.trimEnd (· == '0') fraction
  if -4 ≤ e && e < count then
    match e with
    | .ofNat k => pointed keepZeros (digits.take (k + 1)) (tidy (digits.drop (k + 1)))
    | .negSucc k =>
      pointed keepZeros ['0'] (tidy (List.replicate k ('0' : CodePoint) ++ digits))
  else pointed keepZeros (digits.take 1) (tidy (digits.drop 1)) ++ exponentSuffix e

end JsonTap.Double
