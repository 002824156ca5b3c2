import JsonTap.Number.Double
import JsonTap.Unicode.Blank

/-!
# Numbers in settings

How a setting or an argument writes a number: blanks around it, a sign, decimal digits of any
script, and single underscores between digits. `Written.int?` reads an integer of at most 4300
digits; `Written.double?` reads a number with a point and an exponent, or one of the names of
infinity and not-a-number in any case.
-/

namespace JsonTap.Written

/-- The blanks that may stand around a number, once blanks of other scripts are plain spaces. -/
def isOuterBlank (c : CodePoint) : Bool := (9 ≤ c.val && c.val ≤ 13) || c = ' '

/-- Blanks and digits of other scripts become plain ones; what no number has becomes a question
mark. -/
def plain (c : CodePoint) : CodePoint :=
  if c.val < 0x7F then c
  else if Unicode.isBlank c then ' '
  else match Unicode.digitValue? c with
    | some d => CodePoint.digit d
    | none => '?'

def normalize (t : Text) : Text := Text.trim isOuterBlank (t.map plain)

def sign (t : Text) : Bool × Text :=
  match t with
  | c :: r => if c = '-' then (true, r) else if c = '+' then (false, r) else (false, t)
  | [] => (false, t)

/-- A text without its underscores, if each stands between two digits; `before` tells whether a
digit is directly before the text. -/
def dropUnderscores? : (before : Bool) → Text → Option Text
  | _, [] => some []
  | _, [c] => if c = '_' then none else some [c]
  | before, c :: d :: r =>
    if c = '_' then if before && d.isDigit then dropUnderscores? false (d :: r) else none
    else (dropUnderscores? c.isDigit (d :: r)).map (c :: ·)

/-- The most digits of an integer in a setting. -/
def integerDigits : Nat := 4300

def int? (t : Text) : Option Int :=
  let (negative, body) := sign (normalize t)
  match dropUnderscores? false body with
  | none | some [] => none
  | some ds =>
    if ds.all CodePoint.isDigit && ds.length ≤ integerDigits then
      let n := Text.digitsValue ds
      some (if negative then -(n : Int) else n)
    else none

/-- The exponent that a text denotes, with its letter; an empty text denotes zero. -/
def exponent? : Text → Option Int
  | [] => some 0
  | c :: r =>
    if c = 'e' || c = 'E' then
      match sign r with
      | (_, []) => none
      | (negative, ds) =>
        if ds.all CodePoint.isDigit then
          some (if negative then -(Text.digitsValue ds : Int) else Text.digitsValue ds)
        else none
    else none

/-- The number without sign that a text of digits, point and exponent denotes. -/
def magnitude? (negative : Bool) (t : Text) : Option Double :=
  let whole := t.takeWhile CodePoint.isDigit
  let afterWhole := t.dropWhile CodePoint.isDigit
  let (fraction, rest) := match afterWhole with
    | c :: r =>
      if c = '.' then (r.takeWhile CodePoint.isDigit, r.dropWhile CodePoint.isDigit)
      else ([], afterWhole)
    | [] => ([], afterWhole)
  if whole.isEmpty && fraction.isEmpty then none
  else (exponent? rest).map fun e =>
    Double.ofDecimal negative (Text.digitsValue (whole ++ fraction)) (e - fraction.length)

def double? (t : Text) : Option Double :=
  match dropUnderscores? false (normalize t) with
  | none => none
  | some t =>
    let (negative, body) := sign t
    let name := body.map CodePoint.lowerAscii
    if name = Text.ofString "nan" then some .nan
    else if name = Text.ofString "inf" || name = Text.ofString "infinity" then
      some (.signed negative (Double.clamp infinityCode))
    else magnitude? negative body

end JsonTap.Written
