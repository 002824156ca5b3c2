import JsonTap.Datum.Basic
import JsonTap.Number.Shortest
import JsonTap.Text.Quoted

/-!
# Data in messages

`Datum.text` is how a message shows a datum: a text as it is, everything else as `Datum.quoted`
writes it, with texts between quotes inside lists, tuples and maps.

Integers of more than `digitLimit` digits are never written into a message: `Datum.text?` refuses
any datum that holds one.
-/

namespace JsonTap

def Text.quotedOctet (mark : CodePoint) (b : Octet) : Text :=
  let c := Text.ofOctet b
  if c = mark || c = '\\' then [('\\' : CodePoint), c]
  else if c = '\n' then "\\n"
  else if c = '\r' then "\\r"
  else if c = '\t' then "\\t"
  else if b.val < 0x20 || 0x7F ≤ b.val then Text.numberEscape 'x' 2 b.val
  else [c]

/-- Octets between quotes, marked by a leading letter. -/
def Text.quotedOctets (bs : List Octet) : Text :=
  let mark := Text.quoteMark (Text.latin1 bs)
  ('b' : CodePoint) :: mark :: (bs.flatMap (Text.quotedOctet mark) ++ [mark])

namespace Datum

mutual

/-- A datum in writing, texts between quotes. -/
def quoted : Datum → Text
  | .null => "None"
  | .bool true => "True"
  | .bool false => "False"
  | .int n => Text.ofInt n
  | .num x => x.toText
  | .str t => Text.quoted t
  | .list ds => ('[' : CodePoint) :: (quotedItems ds ++ [(']' : CodePoint)])
  | .tuple [d] => ('(' : CodePoint) :: (quoted d ++ Text.ofString ",)")
  | .tuple ds => ('(' : CodePoint) :: (quotedItems ds ++ [(')' : CodePoint)])
  | .map es => ('{' : CodePoint) :: (quotedEntries es ++ [('}' : CodePoint)])
  | .octets bs => Text.quotedOctets bs

def quotedItems : List Datum → Text
  | [] => []
  | [d] => quoted d
  | d :: ds => quoted d ++ Text.ofString ", " ++ quotedItems ds

def quotedEntries : List (Text × Datum) → Text
  | [] => []
  | [(k, d)] => Text.quoted k ++ Text.ofString ": " ++ quoted d
  | (k, d) :: es => Text.quoted k ++ Text.ofString ": " ++ quoted d ++ Text.ofString ", " ++
      quotedEntries es

end

def text : Datum → Text
  | .str t => t
  | d => quoted d

/-! ### The limit on digits -/

/-- The most digits of an integer in a message. -/
def digitLimit : Nat := 4300

def isLong (n : Int) : Bool := Nat.pow 10 digitLimit ≤ n.natAbs

mutual

def hasLongInteger : Datum → Bool
  | .int n => isLong n
  | .list ds => anyLong ds
  | .tuple ds => anyLong ds
  | .map es => anyEntryLong es
  | _ => false

def anyLong : List Datum → Bool
  | [] => false
  | d :: ds => hasLongInteger d || anyLong ds

def anyEntryLong : List (Text × Datum) → Bool
  | [] => false
  | (_, d) :: es => hasLongInteger d || anyEntryLong es

end

def longIntegerMessage : Text :=
  Text.ofString "Exceeds the limit (4300 digits) for integer string conversion; " ++
    Text.ofString "use sys.set_int_max_str_digits() to increase the limit"

/-- A datum as a message shows it, if no integer in it is too long. -/
def text? (d : Datum) : Option Text := if d.hasLongInteger then none else some d.text

/-- What octets become on a JSON line: their quoted form. -/
def octetsAsText (bs : List Octet) : Option Json.Value := some (.str (Text.quotedOctets bs))

def toJson (d : Datum) : Json.Value := (d.toJsonWith octetsAsText).getD .null

end Datum

end JsonTap
