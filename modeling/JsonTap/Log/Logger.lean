import JsonTap.Log.Record
import JsonTap.Log.Line

/-!
# Loggers and bound fields

Blocks bind fields to every record made inside them; an inner block wins over an outer one, and a
field that is null is not bound at all. `Scope` is the stack of the open blocks. A logger has a name
and fields of its own, which win over bound ones. A call passes named arguments: a few steer the
call, all others become further fields of the record.
-/

namespace JsonTap.Log

/-! ### Blocks -/

/-- The open blocks, innermost first, each with all fields that are bound in it. -/
abbrev Scope := List Fields

namespace Scope

def bound : Scope → Fields
  | [] => []
  | fs :: _ => fs

def enter (s : Scope) (fields : Fields) : Scope := (s.bound.merge fields.present) :: s

def leave (s : Scope) : Scope := s.tail

end Scope

/-! ### Loggers -/

structure Logger where
  name : Text
  static : Fields

namespace Logger

def rootName : Text := "root"

/-- A logger; the empty name is the root's, and null fields are dropped. -/
def get (name : Text) (static : Fields) : Logger :=
  ⟨if name.isEmpty then rootName else name, static.present⟩

end Logger

/-! ### Calls -/

inductive CallFault where
  /-- The argument `extra` has no fields. -/
  | extraKind (kind : Text)
  /-- A further field has a name that belongs to the record. -/
  | reservedName (name : Text)
  /-- A named argument is given that the call has already. -/
  | repeated (name : Text)
  deriving DecidableEq

def CallFault.message : CallFault → Text
  | .extraKind k => Text.ofString "'" ++ k ++ Text.ofString "' object has no attribute 'setdefault'"
  | .reservedName n =>
    Text.quoted (Text.ofString "Attempt to overwrite " ++ Text.quoted n ++
      Text.ofString " in LogRecord")
  | .repeated n =>
    Text.ofString "LoggerAdapter.log() got multiple values for argument " ++ Text.quoted n

/-- The named arguments that steer a call. -/
def steering : List Text := ["exc_info", "stack_info", "stacklevel", "extra"]

def isSteering (name : Text) : Bool := steering.contains name

/-- The context of a call: bound fields with the logger's own written over them. -/
def callContext (l : Logger) (bound : Fields) : Fields := bound.merge l.static

/-- The further fields of a call: those passed as `extra`, then the other arguments, then the
context, none of them overriding what is there. -/
def callExtra (l : Logger) (bound : Fields) (extra arguments : Fields) : Fields :=
  let given := extra.fill (arguments.filter fun a => !isSteering a.1)
  let context := callContext l bound
  if context.isEmpty then given else given.putNew "context" (.map context)

/-- The arguments of a call as they are passed on: the steering ones, and `extra` with everything
else. -/
def process (l : Logger) (bound : Fields) (arguments : Fields) : Except CallFault Fields :=
  let steering : Fields := arguments.filter fun a => isSteering a.1
  let passed : Fields := steering.putNew "extra" (.map [])
  match passed.get? "extra" with
  | some (.map es) => .ok (passed.put "extra" (.map (callExtra l bound es arguments)))
  | some d =>
    if steering.length = arguments.length && (callContext l bound).isEmpty then .ok passed
    else .error (.extraKind (kindName d))
  | none => .ok passed

def raisedOf (d : Datum) : Option Raised := if d.isSomething then some .nothing else none

/-- The record of a call, unless a further field has a name that belongs to the record. -/
def makeRecord (l : Logger) (level : Level) (template : Text) (args : List Datum)
    (raised : Option Raised) (extra : Fields) : Except CallFault Record :=
  match extra.find? (fun f => Record.reservedNames.contains f.1) with
  | some f => .error (.reservedName f.1)
  | none =>
    .ok ⟨level, l.name, template, args, (extra.get? "context").getD .null,
      extra.filter (fun f => f.1 ≠ Text.ofString "context"), raised⟩

/-- The arguments of a call that have a place of their own. -/
def placed : List Text := ["self", "level", "msg"]

/-- The record of a call with named arguments; none if records of the level are not made. A named
argument that has a place already is an error all the same. -/
def call (l : Logger) (enabled : Bool) (bound : Fields) (level : Level) (template : Text)
    (args : List Datum) (raised : Option Raised) (arguments : Fields) :
    Except CallFault (Option Record) :=
  match arguments.find? (fun a => placed.contains a.1) with
  | some a => .error (.repeated a.1)
  | none =>
    if !enabled then .ok none
    else do
      let passed ← process l bound arguments
      let raised := raised.or ((passed.get? "exc_info").bind raisedOf)
      let extra := match passed.get? "extra" with
        | some (.map es) => es
        | _ => []
      let record ← makeRecord l level template args raised extra
      .ok (some record)

/-- The record of a call inside some blocks, with a finished message and no named arguments. -/
def say (l : Logger) (s : Scope) (level : Level) (message : Text) : Record :=
  { Record.note level l.name message [] with
    context := ((callExtra l s.bound [] []).get? "context").getD .null }

end JsonTap.Log
