import JsonTap.Json.Value
import JsonTap.Number.Shortest

/-!
# Writing JSON

One printer for three layouts: `Layout.indented` for values in the log, `Layout.line` for records
that take one ASCII line, and `Layout.compact` for response documents. A layout says what stands
between items and keys, whether nesting starts new lines, and whether a code point is escaped.
-/

namespace JsonTap.Json

structure Layout where
  /-- Between two items on one line. -/
  comma : Text
  /-- Between a key and its value. -/
  colon : Text
  /-- The depth of a nesting level, or none when all stands on one line. -/
  indent : Option Nat
  /-- Only ASCII is written; everything else is escaped. -/
  ascii : Bool

/-- Two blanks per level; every code point above the control characters is written as it is. -/
def Layout.indented : Layout := ⟨",", ": ", some 2, false⟩

def Layout.line : Layout := ⟨", ", ": ", none, true⟩

def Layout.compact : Layout := ⟨",", ":", none, false⟩

def unitEscape (n : Nat) : Text := ('\\' : CodePoint) :: ('u' : CodePoint) :: Text.hex 4 n

/-- A code point inside a string. Above the basic plane an escape is a surrogate pair. -/
def escape (ascii : Bool) (c : CodePoint) : Text :=
  if c = '"' then "\\\""
  else if c = '\\' then "\\\\"
  else if c = '\n' then "\\n"
  else if c = '\r' then "\\r"
  else if c = '\t' then "\\t"
  else if c.val = 0x08 then "\\b"
  else if c.val = 0x0C then "\\f"
  else if c.val < 0x20 then unitEscape c.val
  else if ascii && c.val ≥ 0x7F then
    if c.val < 0x10000 then unitEscape c.val
    else unitEscape (0xD800 + (c.val - 0x10000) / 0x400) ++
      unitEscape (0xDC00 + (c.val - 0x10000) % 0x400)
  else [c]

def quote (ascii : Bool) (t : Text) : Text :=
  ('"' : CodePoint) :: (t.flatMap (escape ascii) ++ [('"' : CodePoint)])

/-- What starts a line at a depth; nothing when all stands on one line. -/
def Layout.newline (l : Layout) (depth : Nat) : Text :=
  match l.indent with
  | none => []
  | some n => ('\n' : CodePoint) :: List.replicate (n * depth) (' ' : CodePoint)

mutual

def render (l : Layout) (depth : Nat) : Value → Text
  | .null => "null"
  | .bool true => "true"
  | .bool false => "false"
  | .int n => Text.ofInt n
  | .num x => x.render .json
  | .str t => quote l.ascii t
  | .arr [] => "[]"
  | .arr (v :: vs) =>
    ('[' : CodePoint) :: (l.newline (depth + 1) ++ render l (depth + 1) v ++
      renderItems l (depth + 1) vs ++ l.newline depth ++ [(']' : CodePoint)])
  | .obj [] => "{}"
  | .obj ((k, v) :: ms) =>
    ('{' : CodePoint) :: (l.newline (depth + 1) ++ quote l.ascii k ++ l.colon ++
      render l (depth + 1) v ++ renderMembers l (depth + 1) ms ++ l.newline depth ++
      [('}' : CodePoint)])

/-- The items after the first one, each with what stands before it. -/
def renderItems (l : Layout) (depth : Nat) : List Value → Text
  | [] => []
  | v :: vs => l.comma ++ l.newline depth ++ render l depth v ++ renderItems l depth vs

/-- The members after the first one, each with what stands before it. -/
def renderMembers (l : Layout) (depth : Nat) : List (Text × Value) → Text
  | [] => []
  | (k, v) :: ms =>
    l.comma ++ l.newline depth ++ quote l.ascii k ++ l.colon ++ render l depth v ++
      renderMembers l depth ms

end

def Value.indented (v : Value) : Text := render .indented 0 v

def Value.line (v : Value) : Text := render .line 0 v

def Value.compact (v : Value) : Text := render .compact 0 v

end JsonTap.Json
