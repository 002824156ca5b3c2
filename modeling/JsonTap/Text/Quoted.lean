import JsonTap.Text.Decimal
import JsonTap.Unicode.Printable

/-!
# Quoted texts in messages

A message shows a text between single quotes, or between double quotes if it has a single quote
and no double one. Backslash, line feed, carriage return, tab and the chosen quote are escaped
with a backslash, every other code point that is not printable by its number in two, four or eight
hexadecimal digits. A quoted text therefore has printable code points only.
-/

namespace JsonTap.Text

def quoteMark (t : Text) : CodePoint :=
  if t.contains ('\'' : CodePoint) && !t.contains ('"' : CodePoint) then '"' else '\''

/-- A backslash, a letter and a number in `w` hexadecimal digits. -/
def numberEscape (letter : CodePoint) (w n : Nat) : Text := ('\\' : CodePoint) :: letter :: hex w n

def quotedCodePoint (mark c : CodePoint) : Text :=
  if c = mark || c = '\\' then [('\\' : CodePoint), c]
  else if c = '\n' then "\\n"
  else if c = '\r' then "\\r"
  else if c = '\t' then "\\t"
  else if Unicode.isPrintable c then [c]
  else if c.val < 0x100 then numberEscape 'x' 2 c.val
  else if c.val < 0x10000 then numberEscape 'u' 4 c.val
  else numberEscape 'U' 8 c.val

/-- A text between quotes, all of it printable. -/
def quoted (t : Text) : Text :=
  let mark := quoteMark t
  mark :: (t.flatMap (quotedCodePoint mark) ++ [mark])

end JsonTap.Text
