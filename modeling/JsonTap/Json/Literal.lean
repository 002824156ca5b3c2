import JsonTap.Json.Value

/-!
# Numbers and strings as JSON writes them

`Numeral.scan?` takes the longest JSON number at the front of a text: an optional sign, a whole
part without leading zeros, and a fraction and an exponent if they are complete. A numeral with
neither fraction nor exponent denotes an exact integer of any length, every other one the nearest
binary64 number.

`scanString` reads the rest of a string after its opening quote as a list of pieces, which tells
escapes by number from everything else: only two halves of a surrogate pair that are both escaped
are joined (`joinPieces`).
-/

namespace JsonTap.Json

/-! ### Numbers -/

structure Exponent where
  /-- The letter, `e` or `E`. -/
  mark : CodePoint
  /-- The sign, if one is written. -/
  sign : Option CodePoint
  digits : Text
  deriving DecidableEq

structure Numeral where
  negative : Bool
  whole : Text
  /-- The digits after the point; none when there is no point. -/
  fraction : Text
  exponent : Option Exponent
  deriving DecidableEq

namespace Numeral

def exponentText : Option Exponent → Text
  | none => []
  | some e => e.mark :: (e.sign.toList ++ e.digits)

def text (n : Numeral) : Text :=
  (if n.negative then [('-' : CodePoint)] else []) ++ n.whole ++
    (if n.fraction.isEmpty then [] else ('.' : CodePoint) :: n.fraction) ++ exponentText n.exponent

def isInteger (n : Numeral) : Bool := n.fraction.isEmpty && n.exponent.isNone

def exponentValue : Option Exponent → Int
  | none => 0
  | some e =>
    if e.sign = some ('-' : CodePoint) then -(Text.digitsValue e.digits : Int)
    else Text.digitsValue e.digits

def integer (n : Numeral) : Int :=
  if n.negative then -(Text.digitsValue n.whole : Int) else Text.digitsValue n.whole

def double (n : Numeral) : Double :=
  Double.ofDecimal n.negative (Text.digitsValue (n.whole ++ n.fraction))
    (exponentValue n.exponent - n.fraction.length)

/-- The whole part at the front of a text: a zero, or digits that begin with another one. -/
def scanWhole? : Text → Option (Text × Text)
  | [] => none
  | c :: r =>
    if c = '0' then some ([c], r)
    else if c.isDigit then some (c :: r.takeWhile CodePoint.isDigit, r.dropWhile CodePoint.isDigit)
    else none

/-- The fraction at the front of a text: empty unless a digit follows the point. -/
def scanFraction (s : Text) : Text × Text :=
  match s with
  | p :: d :: r =>
    if p = '.' && d.isDigit then
      (d :: r.takeWhile CodePoint.isDigit, r.dropWhile CodePoint.isDigit)
    else ([], s)
  | _ => ([], s)

/-- The sign of an exponent, if there is one. -/
def scanSign (s : Text) : Option CodePoint × Text :=
  match s with
  | c :: r => if c = '-' || c = '+' then (some c, r) else (none, s)
  | [] => (none, s)

/-- The exponent at the front of a text: none unless it has a digit. -/
def scanExponent (s : Text) : Option Exponent × Text :=
  match s with
  | [] => (none, s)
  | c :: r =>
    if c = 'e' || c = 'E' then
      let (sign, r) := scanSign r
      match r.takeWhile CodePoint.isDigit with
      | [] => (none, s)
      | ds => (some ⟨c, sign, ds⟩, r.dropWhile CodePoint.isDigit)
    else (none, s)

/-- Whether a minus sign is at the front of a text, and what follows it. -/
def scanMinus (s : Text) : Bool × Text :=
  match s with
  | c :: r => if c = '-' then (true, r) else (false, s)
  | [] => (false, s)

/-- The longest numeral at the front of a text, and what follows it. -/
def scan? (s : Text) : Option (Numeral × Text) :=
  let (negative, unsigned) := scanMinus s
  match scanWhole? unsigned with
  | none => none
  | some (whole, r) =>
    let (fraction, r) := scanFraction r
    let (exponent, r) := scanExponent r
    some (⟨negative, whole, fraction, exponent⟩, r)

end Numeral

/-! ### Strings -/

inductive Piece where
  | plain (c : CodePoint)
  | unit (u : CodePoint)
  deriving DecidableEq

/-- What ends the reading of a string early, with the text from that place on. -/
inductive StringFault where
  /-- The string does not end. -/
  | unterminated
  /-- A control character stands in the string. -/
  | controlCharacter (rest : Text)
  /-- A backslash is followed by something that is no escape. -/
  | invalidEscape (rest : Text)
  /-- The letter `u` of an escape is not followed by four hexadecimal digits and more text. -/
  | invalidUnit (rest : Text)

def simpleEscape? (c : CodePoint) : Option CodePoint :=
  if c = '"' || c = '\\' || c = '/' then some c
  else if c = 'b' then some '\x08'
  else if c = 'f' then some '\x0c'
  else if c = 'n' then some '\n'
  else if c = 'r' then some '\r'
  else if c = 't' then some '\t'
  else none

/-- The unit that four hexadecimal digits denote. -/
def unit? (a b c d : CodePoint) : Option CodePoint :=
  match a.hexValue?, b.hexValue?, c.hexValue?, d.hexValue? with
  | some a, some b, some c, some d =>
    CodePoint.ofNat? (((a * 16 + b) * 16 + c) * 16 + d)
  | _, _, _, _ => none

/-- The rest of a string after its opening quote: its pieces, after those already read (`acc`, last
one first), and the text after the closing quote. -/
def scanString : Text → List Piece → Except StringFault (List Piece × Text)
  | [], _ => .error .unterminated
  | c :: r, acc =>
    if c = '"' then .ok (acc.reverse, r)
    else if c = '\\' then
      match r with
      | [] => .error .unterminated
      | e :: r' =>
        if e = 'u' then
          match r' with
          | x :: y :: z :: w :: q :: more =>
            match unit? x y z w with
            | some u => scanString (q :: more) (.unit u :: acc)
            | none => .error (.invalidUnit (e :: x :: y :: z :: w :: q :: more))
          | short => .error (.invalidUnit (e :: short))
        else match simpleEscape? e with
          | some x => scanString r' (.plain x :: acc)
          | none => .error (.invalidEscape (c :: e :: r'))
    else if c.val < 0x20 then .error (.controlCharacter (c :: r))
    else scanString r (.plain c :: acc)

theorem scanString_length {s : Text} {acc ps : List Piece} {r : Text}
    (h : scanString s acc = .ok (ps, r)) : r.length < s.length := by
  fun_induction scanString s acc <;> simp_all <;> omega

def joinPair (h l : CodePoint) : CodePoint :=
  let n := 0x10000 + (h.val - 0xD800) % 0x400 * 0x400 + (l.val - 0xDC00) % 0x400
  ⟨n, by omega⟩

/-- The text of some pieces: an escaped high surrogate directly before an escaped low one makes
one code point with it. -/
def joinPieces : List Piece → Text
  | [] => []
  | .plain c :: ps => c :: joinPieces ps
  | [.unit u] => [u]
  | .unit u :: .plain c :: ps => u :: c :: joinPieces ps
  | .unit u :: .unit w :: ps =>
    if u.isHighSurrogate && w.isLowSurrogate then joinPair u w :: joinPieces ps
    else u :: joinPieces (.unit w :: ps)

end JsonTap.Json
