import JsonTap.Text.Decimal

/-!
# Severity

A level is a number; the greater, the more severe. Six levels have names, and some names stand for
the same level.
-/

namespace JsonTap.Log

abbrev Level := Int

namespace Level

def debug : Level := 10
def info : Level := 20
def warning : Level := 30
def error : Level := 40
def critical : Level := 50

def notSet : Level := 0

/-- The known names, the usual one of a level first. -/
def names : List (Text × Level) :=
  [("CRITICAL", critical), ("FATAL", critical), ("ERROR", error), ("WARNING", warning),
    ("WARN", warning), ("INFO", info), ("DEBUG", debug), ("NOTSET", notSet)]

/-- The level of a name in upper case. -/
def ofName? (name : Text) : Option Level := names.lookup name

/-- The name of a level; a level without one is shown by its number. -/
def name (l : Level) : Text :=
  match names.find? (·.2 == l) with
  | some (n, _) => n
  | none => Text.ofString "Level " ++ Text.ofInt l

end Level

end JsonTap.Log
