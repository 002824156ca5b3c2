/-!
# Text as code points

A text is a list of Unicode code points, surrogates included: the escape `\ud800` in a JSON
string denotes a code point that no `Char` is. `Text.ofString` brings in literals, and the
operations below cut, search and join texts.

The rules for trimming say what is left: `Text.trim p` has no end that satisfies `p`.
-/

namespace JsonTap

/-- A Unicode code point, surrogates included. -/
abbrev CodePoint := Fin 0x110000

abbrev Octet := Fin 256

abbrev Text := List CodePoint

namespace CodePoint

theorem toNat_lt_of_char (c : Char) : c.val.toNat < 0x110000 := by
  have h := c.valid
  unfold UInt32.isValidChar Nat.isValidChar at h
  omega

def ofChar (c : Char) : CodePoint := ⟨c.val.toNat, toNat_lt_of_char c⟩

instance : Coe Char CodePoint := ⟨ofChar⟩

/-- The code point of a number, if there is one. -/
def ofNat? (n : Nat) : Option CodePoint := if h : n < 0x110000 then some ⟨n, h⟩ else none

def isHighSurrogate (c : CodePoint) : Bool := 0xD800 ≤ c.val && c.val < 0xDC00

/-- The second half of a surrogate pair. -/
def isLowSurrogate (c : CodePoint) : Bool := 0xDC00 ≤ c.val && c.val < 0xE000

/-- A code point that is no Unicode scalar value. -/
def isSurrogate (c : CodePoint) : Bool := 0xD800 ≤ c.val && c.val < 0xE000

/-- The code point that takes the place of damaged input. -/
def replacement : CodePoint := 0xFFFD

/-- The character of a scalar value; the replacement character stands for a surrogate. -/
def toChar (c : CodePoint) : Char := if c.isSurrogate then '\ufffd' else Char.ofNat c.val

def isDigit (c : CodePoint) : Bool := 0x30 ≤ c.val && c.val ≤ 0x39

def digit (n : Nat) : CodePoint := ⟨0x30 + n % 10, by omega⟩

def hexDigit (n : Nat) : CodePoint :=
  if n % 16 < 10 then ⟨0x30 + n % 16, by omega⟩ else ⟨0x57 + n % 16, by omega⟩

def hexValue? (c : CodePoint) : Option Nat :=
  if 0x30 ≤ c.val && c.val ≤ 0x39 then some (c.val - 0x30)
  else if 0x61 ≤ c.val && c.val ≤ 0x66 then some (c.val - 0x57)
  else if 0x41 ≤ c.val && c.val ≤ 0x46 then some (c.val - 0x37)
  else none

/-- A letter of ASCII in lower case; other code points as they are. -/
def lowerAscii (c : CodePoint) : CodePoint :=
  if h : 0x41 ≤ c.val ∧ c.val ≤ 0x5A then ⟨c.val + 0x20, by omega⟩ else c

/-- A letter of ASCII in upper case; other code points as they are. -/
def upperAscii (c : CodePoint) : CodePoint :=
  if h : 0x61 ≤ c.val ∧ c.val ≤ 0x7A then ⟨c.val - 0x20, by omega⟩ else c

end CodePoint

namespace Text

def ofString (s : String) : Text := s.toList.map CodePoint.ofChar

instance : Coe String Text := ⟨ofString⟩

/-- The string with a text's scalar values; surrogates are replaced. -/
def toStringLossy (t : Text) : String := String.ofList (t.map CodePoint.toChar)

/-- An octet as the code point of the same number. -/
def ofOctet (b : Octet) : CodePoint := ⟨b.val, by omega⟩

/-- Octets as the code points of the same numbers. -/
def latin1 (bs : List Octet) : Text := bs.map ofOctet

/-! ### Trimming -/

def trimEnd (p : CodePoint → Bool) (t : Text) : Text := (t.reverse.dropWhile p).reverse

def trim (p : CodePoint → Bool) (t : Text) : Text := trimEnd p (t.dropWhile p)

/-! ### Searching and cutting -/

def startsWith (t p : Text) : Bool := p.isPrefixOf t

def endsWith (t p : Text) : Bool := p.isSuffixOf t

def occurs (p : Text) : Text → Bool
  | [] => p.isEmpty
  | c :: r => p.isPrefixOf (c :: r) || occurs p r

/-- The parts of a text between the code points equal to `sep`; always at least one part. -/
def splitAt (sep : CodePoint) : Text → List Text
  | [] => [[]]
  | c :: r =>
    if c = sep then [] :: splitAt sep r
    else match splitAt sep r with
      | [] => [[c]]
      | w :: ws => (c :: w) :: ws

def join (sep : Text) : List Text → Text
  | [] => []
  | [t] => t
  | t :: ts => t ++ sep ++ join sep ts

/-- The part before the first `sep`, and the part after it if there is one. -/
def cutAt (sep : CodePoint) (t : Text) : Text × Option Text :=
  match t.dropWhile (· != sep) with
  | [] => (t, none)
  | _ :: r => (t.takeWhile (· != sep), some r)

/-- `t` filled on the left with `c` up to the length `n`. -/
def padStart (n : Nat) (c : CodePoint) (t : Text) : Text := List.replicate (n - t.length) c ++ t

end Text

end JsonTap
