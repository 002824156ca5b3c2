import JsonTap.Number.Double

/-!
# Shortest decimals

`Double.shortest` writes a positive finite magnitude as `digits * 10 ^ exponent` with the fewest
digits that read back as the same magnitude, and among those the nearest; a tie goes to the even
digits. The search looks at grids of one to seventeen significant digits. If any point of a grid
reads back, so does one of the two neighbours of the value on it, so only these are tried.

`Double.toText` lays the digits out: positional between 10^-4 and 10^16, always with a fraction or
an exponent, and exponents of at least two digits. Such a text is a number of JSON.
-/

namespace JsonTap.Double

/-- A decimal: `digits * 10 ^ exponent`. -/
structure Decimal where
  digits : Nat
  exponent : Int
  deriving DecidableEq

def Decimal.code (d : Decimal) : Nat :=
  match ofDecimal false d.digits d.exponent with
  | .nan => 0
  | .signed _ c => c.val

/-- The exponent of the leading decimal digit of a positive finite magnitude. Every such magnitude
is at least 10^-400. -/
def leadingExponent (code : Nat) : Int :=
  (Text.digitCount (units code * Nat.pow 10 400 / unitsPerOne) : Int) - 401

/-- A magnitude divided by `10 ^ step`, as numerator and denominator. -/
def onGrid (code : Nat) (step : Int) : Nat × Nat :=
  match step with
  | .ofNat e => (units code, unitsPerOne * Nat.pow 10 e)
  | .negSucc e => (units code * Nat.pow 10 (e + 1), unitsPerOne)

/-- Of the two neighbours of a magnitude on a grid the better one that reads back; the magnitude is
`rest / den` steps above the lower one. -/
def better? (code : Nat) (below above : Decimal) (rest den : Nat) : Option Decimal :=
  match decide (below.code = code), decide (above.code = code) with
  | false, false => none
  | true, false => some below
  | false, true => some above
  | true, true =>
    if 2 * rest < den then some below
    else if den < 2 * rest then some above
    else if below.digits % 2 = 0 then some below else some above

/-- The better neighbour of a magnitude on the grid of `places` significant digits. -/
def onPlaces? (code : Nat) (places : Nat) : Option Decimal :=
  let step := leadingExponent code - ((places : Int) - 1)
  let grid := onGrid code step
  better? code ⟨grid.1 / grid.2, step⟩ ⟨grid.1 / grid.2 + 1, step⟩ (grid.1 % grid.2) grid.2

/-- The first grid with a point that reads back, from `places` digits on, `fuel` grids at most. -/
def searchPlaces (code : Nat) : (fuel places : Nat) → Option Decimal
  | 0, _ => none
  | fuel + 1, places => (onPlaces? code places).or (searchPlaces code fuel (places + 1))

def allDigits (code : Nat) : Decimal := ⟨units code * Nat.pow 5 1074, -1074⟩

/-- The shortest decimal that reads back as a positive finite magnitude. -/
def shortest (code : Nat) : Decimal := (searchPlaces code 17 1).getD (allDigits code)

/-! ### Layout -/

structure Layout where
  /-- The least leading exponent that is written positionally. -/
  positionalFrom : Int
  /-- The least leading exponent above those that are written positionally. -/
  positionalBelow : Int
  /-- What follows a whole number. -/
  wholeSuffix : Text
  /-- The least count of digits of an exponent. -/
  exponentDigits : Nat
  /-- The texts of not-a-number and of infinity. -/
  nan : Text
  infinity : Text

/-- Numbers in messages and settings. -/
def Layout.plain : Layout := ⟨-4, 16, ".0", 2, "nan", "inf"⟩

/-- Numbers in JSON text; infinity and not-a-number have names that strict JSON refuses. -/
def Layout.json : Layout := { Layout.plain with nan := "NaN", infinity := "Infinity" }

/-- Significant digits, without zeros at the end, with the exponent of the first of them. -/
def layOut (l : Layout) (digits : Text) (lead : Int) : Text :=
  let shown := Text.trimEnd (· == '0') digits
  if l.positionalFrom ≤ lead && lead < l.positionalBelow then
    match lead with
    | .ofNat e =>
      if shown.length ≤ e + 1 then
        shown ++ List.replicate (e + 1 - shown.length) ('0' : CodePoint) ++ l.wholeSuffix
      else shown.take (e + 1) ++ (('.' : CodePoint) :: shown.drop (e + 1))
    | .negSucc e => Text.ofString "0." ++ List.replicate e ('0' : CodePoint) ++ shown
  else
    let mantissa : Text := match shown with
      | [] => []
      | [d] => [d]
      | d :: ds => d :: ('.' : CodePoint) :: ds
    let sign : CodePoint := if lead < 0 then '-' else '+'
    mantissa ++ (('e' : CodePoint) :: sign ::
      Text.padStart l.exponentDigits '0' (Text.ofNat lead.natAbs))

def magnitudeText (l : Layout) (code : Nat) : Text :=
  let d := shortest code
  let digits := Text.ofNat d.digits
  layOut l digits (d.exponent + digits.length - 1)

def render (l : Layout) : Double → Text
  | .nan => l.nan
  | .signed negative c =>
    let body : Text :=
      if c.val = infinityCode then l.infinity
      else if c.val = 0 then ('0' : CodePoint) :: l.wholeSuffix
      else magnitudeText l c.val
    if negative then ('-' : CodePoint) :: body else body

def toText (x : Double) : Text := render .plain x

end JsonTap.Double
