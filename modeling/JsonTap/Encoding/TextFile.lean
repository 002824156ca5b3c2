import JsonTap.Encoding.Utf8

/-!
# Lines of a text file

A text file is UTF-8 and is decoded in blocks; a character may go on in the next block. Reading
stops at the first damaged block, of which nothing is read; octets left over at the end of the file
are damage too. A line ends with a line feed, a carriage return, or both together; all become a line
feed.

Of a damaged file those lines are read that end before the damaged block.
-/

namespace JsonTap.TextFile

def blockSize : Nat := 8192

/-- The text of the sound blocks, and the damage after them, if there is one. The damage is placed
within what was decoded at one time: a block with what the block before it left over. -/
def decodeBlocks : (fuel : Nat) → (carry rest : List Octet) → Text × Option Utf8.Undecodable
  | 0, _, _ => ([], none)
  | fuel + 1, carry, rest =>
    if rest.isEmpty then ([], (Utf8.untilDamage 0 (Utf8.pieces carry)).2)
    else
      match Utf8.untilDamage 0 (Utf8.pieces (carry ++ rest.take blockSize)) with
      | (t, none) =>
        let (more, damage) := decodeBlocks fuel [] (rest.drop blockSize)
        (t ++ more, damage)
      | (t, some u) =>
        if u.reason = .unexpectedEnd then
          let (more, damage) := decodeBlocks fuel u.octets (rest.drop blockSize)
          (t ++ more, damage)
        else ([], some u)

def decode (bs : List Octet) : Text × Option Utf8.Undecodable :=
  decodeBlocks (bs.length + 1) [] bs

def unifyLineEnds : Text → Text
  | [] => []
  | c :: r =>
    if c = '\r' then
      match r with
      | [] => ['\n']
      | d :: r' => if d = '\n' then ('\n' : CodePoint) :: unifyLineEnds r'
        else ('\n' : CodePoint) :: unifyLineEnds (d :: r')
    else c :: unifyLineEnds r

/-- The lines of a text, each with its line feed; only the last one may lack it. -/
def splitLines : Text → List Text
  | [] => []
  | c :: r =>
    if c = '\n' then [c] :: splitLines r
    else match splitLines r with
      | [] => [[c]]
      | l :: ls => (c :: l) :: ls

/-- The lines that can be read, and the damage that ends the reading. A carriage return directly
before damage ends no line, for a line feed might follow it. -/
def lines (bs : List Octet) : List Text × Option Utf8.Undecodable :=
  match decode bs with
  | (t, none) => (splitLines (unifyLineEnds t), none)
  | (t, some u) =>
    let t := if t.getLast? = some ('\r' : CodePoint) then t.dropLast else t
    ((splitLines (unifyLineEnds t)).filter (·.getLast? = some ('\n' : CodePoint)), some u)

end JsonTap.TextFile
