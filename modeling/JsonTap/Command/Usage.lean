import JsonTap.Command.Flag

/-!
# Usage and help

The usage shows every flag between brackets, the help explains each of them. Words are filled into
lines of a fixed width.
-/

namespace JsonTap.Command

def lineWidth : Nat := 78

def helpColumn : Nat := 24

def spaces (n : Nat) : Text := List.replicate n (' ' : CodePoint)

/-- Fills words into lines. `used` columns of the first line are taken; every later line begins
with `indent` columns. A word goes on a line if it ends within the width, or is the first there. -/
def fill (width indent : Nat) : (used : Nat) → (line : List Text) → List Text → List (List Text)
  | _, line, [] => if line.isEmpty then [] else [line]
  | used, line, w :: ws =>
    if width < used + 1 + w.length && !line.isEmpty then
      line :: fill width indent (indent + w.length) [w] ws
    else fill width indent (used + 1 + w.length) (line ++ [w]) ws

def filled (indent used : Nat) (words : List Text) : Text :=
  let lines := fill lineWidth indent used [] words
  Text.join (Text.ofString "\n" ++ spaces indent) (lines.map (Text.join " "))

namespace Flag

def invocation (f : Flag) (name : Text) : Text :=
  match f.argument? with
  | none => name
  | some a => name ++ Text.ofString " " ++ a

/-- A flag in the usage, by its first name. -/
def usage (f : Flag) : Text :=
  Text.ofString "[" ++ f.invocation (f.names.headD []) ++ Text.ofString "]"

/-- A flag in the help. One that is too long for its column has a line of its own. -/
def explanation (f : Flag) : Text :=
  let head := spaces 2 ++ Text.join ", " (f.names.map f.invocation)
  let words := Text.splitAt ' ' f.purpose
  let gap : Text :=
    if head.length + 2 ≤ helpColumn then spaces (helpColumn - head.length)
    else Text.ofString "\n" ++ spaces helpColumn
  head ++ gap ++ filled helpColumn (helpColumn - 1) words ++ Text.ofString "\n"

end Flag

/-- How the program is called. -/
def usage : Text :=
  let start := Text.ofString "usage:"
  let indent := start.length + 1 + programName.length + 1
  start ++ Text.ofString " " ++
    filled indent start.length (programName :: Flag.all.map (·.usage)) ++ Text.ofString "\n"

/-- How the program is called, what it does, and what the flags are good for. -/
def help : Text :=
  usage ++ Text.ofString "\n" ++ purpose ++ Text.ofString "\n\noptions:\n" ++
    Flag.all.flatMap (·.explanation)

end JsonTap.Command
