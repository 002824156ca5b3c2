import JsonTap.Text.Decimal

/-!
# Binary64 numbers

A `Double` is not-a-number, or a sign and the code of a magnitude. Codes count the magnitudes
upwards: 0 is zero, the codes below 2^52 are the subnormal numbers, and `infinityCode` follows the
greatest finite one. Every finite magnitude is a whole number of units of 2^-1074
(`Double.units`), so all arithmetic here is exact arithmetic on natural numbers followed by one
rounding, `Double.roundRatio`: to the nearest code, and to the even one between two.
-/

namespace JsonTap

/-- The quotient of `n` and `d` rounded to the nearest natural number, ties to even. -/
def roundHalfEven (n d : Nat) : Nat :=
  let q := n / d
  let r := n % d
  if 2 * r < d then q else if d < 2 * r then q + 1 else q + q % 2

def infinityCode : Nat := 0x7FF0000000000000

/-- A binary64 number: not-a-number, or a sign and the code of a magnitude. -/
inductive Double where
  | nan
  | signed (negative : Bool) (code : Fin (infinityCode + 1))
  deriving DecidableEq

namespace Double

/-- The unit of the finite magnitudes is one divided by this number. -/
def unitsPerOne : Nat := Nat.pow 2 1074

def binade : Nat := 0x10000000000000

/-- The magnitude of a finite code in units of 2^-1074. -/
def units (code : Nat) : Nat :=
  if code < binade then code else (binade + code % binade) * Nat.pow 2 (code / binade - 1)

/-- A code from a number, with everything too large at infinity. -/
def clamp (code : Nat) : Fin (infinityCode + 1) := ⟨min code infinityCode, by omega⟩

def roundRatio (num den : Nat) : Nat :=
  let n := num * unitsPerOne
  let k := (n / den).log2 - 52
  k * binade + roundHalfEven n (den * Nat.pow 2 k)

/-- The number nearest to the quotient of `num` and `den`. -/
def ofRatio (negative : Bool) (num den : Nat) : Double :=
  .signed negative (clamp (roundRatio num den))

def zero : Double := .signed false 0
def infinity : Double := .signed false (clamp infinityCode)

/-- The number nearest to `digits * 10 ^ exponent`. Exponents far outside the range of binary64
are settled by the count of digits alone. -/
def ofDecimal (negative : Bool) (digits : Nat) (exponent : Int) : Double :=
  if digits = 0 then .signed negative 0
  else
    let magnitude := (Text.digitCount digits : Int) + exponent
    if 310 < magnitude then .signed negative (clamp infinityCode)
    else if magnitude < -330 then .signed negative 0
    else match exponent with
      | .ofNat e => ofRatio negative (digits * Nat.pow 10 e) 1
      | .negSucc e => ofRatio negative digits (Nat.pow 10 (e + 1))

def ofInt : Int → Double
  | .ofNat n => ofRatio false n 1
  | .negSucc n => ofRatio true (n + 1) 1

/-! ### Kinds of numbers -/

def isNan : Double → Bool
  | .nan => true
  | .signed _ _ => false

def isInfinite : Double → Bool
  | .nan => false
  | .signed _ c => c.val = infinityCode

def isFinite : Double → Bool
  | .nan => false
  | .signed _ c => c.val < infinityCode

/-! ### Arithmetic -/

/-- A finite number in units of 2^-1074; zero for the others. -/
def scaled : Double → Int
  | .nan => 0
  | .signed false c => units c.val
  | .signed true c => -(units c.val : Int)

/-- The number nearest to `n` units divided by `den`; `zeroSign` is the sign of an exact zero. -/
def ofScaled (zeroSign : Bool) (n : Int) (den : Nat) : Double :=
  if n = 0 then .signed zeroSign 0
  else ofRatio (n < 0) n.natAbs (den * unitsPerOne)

def isNegative : Double → Bool
  | .nan => false
  | .signed s _ => s

def add (x y : Double) : Double :=
  match x, y with
  | .nan, _ | _, .nan => .nan
  | .signed s _, .signed t _ =>
    if x.isInfinite && y.isInfinite then if s = t then x else .nan
    else if x.isInfinite then x
    else if y.isInfinite then y
    else ofScaled (s && t) (x.scaled + y.scaled) 1

def mul (x y : Double) : Double :=
  match x, y with
  | .nan, _ | _, .nan => .nan
  | .signed s a, .signed t b =>
    let sign := s != t
    if x.isInfinite || y.isInfinite then
      if a.val = 0 || b.val = 0 then .nan else .signed sign (clamp infinityCode)
    else ofRatio sign (units a.val * units b.val) (unitsPerOne * unitsPerOne)

/-- The quotient of two numbers of which the second is finite and not zero, rounded once. -/
def div (x y : Double) : Double :=
  match x, y with
  | .nan, _ | _, .nan => .nan
  | .signed s a, .signed t b =>
    let sign := s != t
    if x.isInfinite then .signed sign (clamp infinityCode)
    else ofRatio sign (units a.val) (units b.val)

def sub (x y : Double) : Double :=
  match y with
  | .nan => .nan
  | .signed t b => add x (.signed (!t) b)

/-- The integer part of a finite number, toward zero. -/
def truncate (x : Double) : Int := x.scaled.tdiv unitsPerOne

def floor (x : Double) : Int := x.scaled.fdiv unitsPerOne

/-- A finite number rounded to the nearest integer, ties to even. -/
def round (x : Double) : Int :=
  let n := roundHalfEven x.scaled.natAbs unitsPerOne
  if x.scaled < 0 then -(n : Int) else n

/-- What is left of a finite number without its integer part; exact. -/
def fraction (x : Double) : Double :=
  ofScaled x.isNegative (x.scaled - x.truncate * unitsPerOne) 1

/-! ### Order -/

/-- Whether `x` is below `y`; not-a-number is below and above nothing. -/
def lt (x y : Double) : Bool :=
  match x, y with
  | .nan, _ | _, .nan => false
  | .signed s a, .signed t b =>
    let key (s : Bool) (c : Nat) : Int := if s then -(c : Int) else c
    key s a.val < key t b.val

/-- Whether `x` is below `y` or as great. -/
def le (x y : Double) : Bool :=
  match x, y with
  | .nan, _ | _, .nan => false
  | .signed _ _, .signed _ _ => !lt y x

/-- Whether two numbers are as great as each other: zeros of either sign are. -/
def same (x y : Double) : Bool := le x y && le y x

end Double

end JsonTap
