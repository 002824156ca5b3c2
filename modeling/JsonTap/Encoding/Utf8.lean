import JsonTap.Text.Decimal

/-!
# UTF-8

`Utf8.encode` writes a code point as one to four octets; surrogates have no encoding in UTF-8, so
`Utf8.encodeStrict` refuses them.

Reading goes octet by octet through a small machine, `Utf8.State`. Between characters it holds
nothing; inside one it holds the octets seen, how many more are owed, and the bounds of the next
octet. The bounds after a first octet leave out overlong forms, encoded surrogates and numbers
above 0x10FFFF. The machine cuts the octets into pieces (`Utf8.pieces`): characters, and ill-formed
stretches of one to three octets with the reason. An octet that cannot go on with a character
begins a new piece, so damage never reaches past the next octet that could begin a character.

`Utf8.decode` puts one replacement character for each ill-formed piece; `Utf8.decodeStrict` stops
at the first of them.
-/

namespace JsonTap.Utf8

/-! ### Writing -/

def octet (n : Nat) : Octet := ⟨n % 256, Nat.mod_lt _ (by decide)⟩

/-- The octets of one code point, by its range. -/
def encodeCodePoint (c : CodePoint) : List Octet :=
  let n := c.val
  if n < 0x80 then [octet n]
  else if n < 0x800 then [octet (0xC0 + n / 64), octet (0x80 + n % 64)]
  else if n < 0x10000 then
    [octet (0xE0 + n / 4096), octet (0x80 + n / 64 % 64), octet (0x80 + n % 64)]
  else
    [octet (0xF0 + n / 262144), octet (0x80 + n / 4096 % 64), octet (0x80 + n / 64 % 64),
      octet (0x80 + n % 64)]

def encode (t : Text) : List Octet := t.flatMap encodeCodePoint

/-- The first run of surrogates in a text, which UTF-8 cannot hold. -/
structure Unencodable where
  /-- The surrogate that begins the run. -/
  first : CodePoint
  /-- How many code points stand before it. -/
  start : Nat
  /-- How many surrogates the run has. -/
  length : Nat

def unencodable? (t : Text) : Option Unencodable :=
  match t.dropWhile (!·.isSurrogate) with
  | [] => none
  | c :: r =>
    some ⟨c, t.length - (r.length + 1), ((c :: r).takeWhile (·.isSurrogate)).length⟩

/-- The octets of a text of scalar values. -/
def encodeStrict (t : Text) : Except Unencodable (List Octet) :=
  match unencodable? t with
  | some u => .error u
  | none => .ok (encode t)

/-! ### Reading -/

inductive Damage where
  /-- The octet begins no character. -/
  | invalidStart
  /-- The next octet cannot go on with the character begun. -/
  | invalidContinuation
  /-- The input ends inside the character. -/
  | unexpectedEnd
  deriving DecidableEq, Repr

/-- A stretch of the input: a character, or octets that are none. -/
inductive Piece where
  | char (c : CodePoint)
  | damaged (octets : List Octet) (reason : Damage)
  deriving DecidableEq

/-- A character begun: its octets so far, the number they make, how many octets are owed, and the
bounds of the next one. -/
structure Pending where
  seen : List Octet
  value : Nat
  owed : Nat
  low : Nat
  high : Nat
  deriving DecidableEq

/-- Where the reader stands: between characters, or inside one. -/
inductive State where
  | between
  | inside (p : Pending)
  deriving DecidableEq

def begin (b : Octet) : List Piece × State :=
  let n := b.val
  if n < 0x80 then ([.char (Text.ofOctet b)], .between)
  else if n < 0xC2 then ([.damaged [b] .invalidStart], .between)
  else if n < 0xE0 then ([], .inside ⟨[b], n - 0xC0, 1, 0x80, 0xBF⟩)
  else if n < 0xF0 then
    ([], .inside
      ⟨[b], n - 0xE0, 2, if n = 0xE0 then 0xA0 else 0x80, if n = 0xED then 0x9F else 0xBF⟩)
  else if n < 0xF5 then
    ([], .inside
      ⟨[b], n - 0xF0, 3, if n = 0xF0 then 0x90 else 0x80, if n = 0xF4 then 0x8F else 0xBF⟩)
  else ([.damaged [b] .invalidStart], .between)

def codePoint (n : Nat) : CodePoint := if h : n < 0x110000 then ⟨n, h⟩ else CodePoint.replacement

/-- Reads an octet inside a character: it goes on, ends the character, or begins anew. -/
def advance (p : Pending) (b : Octet) : List Piece × State :=
  if p.low ≤ b.val ∧ b.val ≤ p.high then
    let value := p.value * 64 + (b.val - 0x80)
    if p.owed ≤ 1 then ([.char (codePoint value)], .between)
    else ([], .inside ⟨p.seen ++ [b], value, p.owed - 1, 0x80, 0xBF⟩)
  else
    let (pieces, next) := begin b
    (.damaged p.seen .invalidContinuation :: pieces, next)

def step : State → Octet → List Piece × State
  | .between, b => begin b
  | .inside p, b => advance p b

/-- The pieces read from a state, and the state at the end. -/
def run : State → List Octet → List Piece × State
  | s, [] => ([], s)
  | s, b :: bs =>
    let (now, next) := step s b
    let (later, last) := run next bs
    (now ++ later, last)

def finish : State → List Piece
  | .between => []
  | .inside p => [.damaged p.seen .unexpectedEnd]

/-- The input cut into characters and ill-formed stretches. -/
def pieces (bs : List Octet) : List Piece :=
  let (ps, last) := run .between bs
  ps ++ finish last

/-- A piece as a code point; an ill-formed one is replaced. -/
def Piece.toCodePoint : Piece → CodePoint
  | .char c => c
  | .damaged _ _ => CodePoint.replacement

/-- The text of some octets, one replacement character for each ill-formed stretch. -/
def decode (bs : List Octet) : Text := (pieces bs).map Piece.toCodePoint

/-- An ill-formed stretch and the index of its first octet. -/
structure Undecodable where
  octets : List Octet
  start : Nat
  reason : Damage
  deriving DecidableEq

def Piece.width : Piece → Nat
  | .char c => (encodeCodePoint c).length
  | .damaged bs _ => bs.length

/-- The characters before the first ill-formed piece, and that piece, with `start` octets before. -/
def untilDamage (start : Nat) : List Piece → Text × Option Undecodable
  | [] => ([], none)
  | .char c :: ps =>
    let (t, e) := untilDamage (start + (Piece.char c).width) ps
    (c :: t, e)
  | .damaged bs r :: _ => ([], some ⟨bs, start, r⟩)

def decodeStrict (bs : List Octet) : Except Undecodable Text :=
  match untilDamage 0 (pieces bs) with
  | (t, none) => .ok t
  | (_, some e) => .error e

/-! ### Wording -/

def Damage.message : Damage → Text
  | .invalidStart => "invalid start byte"
  | .invalidContinuation => "invalid continuation byte"
  | .unexpectedEnd => "unexpected end of data"

def octetText (b : Octet) : Text := Text.ofString "0x" ++ Text.hex 2 b.val

/-- The places of several units, the first and the last one. -/
def placesText (unit : Text) (start count : Nat) : Text :=
  unit ++ Text.ofString " in position " ++ Text.ofNat start ++ Text.ofString "-" ++
    Text.ofNat (start + count - 1)

def Undecodable.message (u : Undecodable) : Text :=
  let place : Text := match u.octets with
    | [b] =>
      Text.ofString "byte " ++ octetText b ++ Text.ofString " in position " ++ Text.ofNat u.start
    | bs => placesText "bytes" u.start bs.length
  Text.ofString "'utf-8' codec can't decode " ++ place ++ Text.ofString ": " ++ u.reason.message

/-- The run of surrogates in words, with its place. -/
def Unencodable.message (u : Unencodable) : Text :=
  let place : Text :=
    if u.length = 1 then
      Text.ofString "character '\\u" ++ Text.hex 4 u.first.val ++ Text.ofString "' in position " ++
        Text.ofNat u.start
    else placesText "characters" u.start u.length
  Text.ofString "'utf-8' codec can't encode " ++ place ++
    Text.ofString ": surrogates not allowed"

end JsonTap.Utf8
