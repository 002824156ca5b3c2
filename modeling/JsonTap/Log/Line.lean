import JsonTap.Log.Record
import JsonTap.Log.Timestamp
import JsonTap.Json.Printer
import JsonTap.Unicode.Blank

/-!
# Records in writing

A record is written as a line of text or as a JSON object on one ASCII line. The object begins with
the record's own five entries, which no field can override; then come the fields of the context,
then the further fields that are not hidden. An exception is the entry `error`, whatever field had
that name.
-/

namespace JsonTap

/-- Whether a datum counts as something: not null, false, zero or empty. -/
def Datum.isSomething : Datum → Bool
  | .null => false
  | .bool b => b
  | .int n => n != 0
  | .num x => !x.same .zero
  | .str t => !t.isEmpty
  | .list ds => !ds.isEmpty
  | .tuple ds => !ds.isEmpty
  | .map es => !es.isEmpty
  | .octets bs => !bs.isEmpty

namespace Log

inductive LineFault where
  | template (f : TemplateFault)
  | time (f : Timestamp.Fault)
  /-- The context is something that has no fields. -/
  | contextKind (kind : Text)
  /-- A field holds an integer with too many digits. -/
  | longInteger

def LineFault.message : LineFault → Text
  | .template f => f.message
  | .time f => f.message
  | .contextKind k =>
    Text.ofString "'" ++ k ++ Text.ofString "' object has no attribute 'items'"
  | .longInteger => Datum.longIntegerMessage

/-! ### JSON lines -/

/-- The name that every JSON line gives for the program. -/
def service : Text := "payload_listener"

def ownEntries (time message : Text) (r : Record) : Fields :=
  [("ts", .str time), ("level", .str r.level.name), ("logger", .str r.logger),
    ("message", .str message), ("service", .str service)]

/-- The fields that a line takes from the context: the record's own context if it is something,
otherwise what is bound while it is written. -/
def contextFields (bound : Fields) (r : Record) : Except LineFault Fields :=
  if r.context.isSomething then
    match r.context with
    | .map es => .ok es
    | d => .error (.contextKind (kindName d))
  else .ok bound

def isShown (name : Text) : Bool :=
  !(Record.reservedNames.contains name || name = Text.ofString "context" ||
    name.startsWith "_")

def raisedEntry (x : Raised) : Datum :=
  .map [("type", .str x.name), ("message", .str x.message),
    ("stack", .str (Unicode.strip x.report))]

def entries (time message : Text) (context : Fields) (r : Record) : Fields :=
  let base := ((ownEntries time message r).fill context).fill (r.extra.filter fun f => isShown f.1)
  match r.raised with
  | none => base
  | some x => base.put "error" (raisedEntry x)

def jsonLine (created : Double) (bound : Fields) (r : Record) : Except LineFault Text := do
  let time ← (Timestamp.iso created).mapError .time
  let message ← r.message.mapError .template
  let context ← contextFields bound r
  let entry := Datum.map (entries time message context r)
  if entry.hasLongInteger then .error .longInteger
  else .ok entry.toJson.line

/-! ### Text lines -/

/-- A message with the report of an exception on the next line. -/
def withReport (t : Text) : Option Raised → Text
  | none => t
  | some x =>
    let t := if t.endsWith "\n" then t else t ++ Text.ofString "\n"
    t ++ x.report

/-- A record as a line of text: time, level, logger and message. -/
def textLine (created : Double) (r : Record) : Except LineFault Text := do
  let message ← r.message.mapError .template
  let time ← (Timestamp.plain created).mapError .time
  .ok (withReport (time ++ Text.ofString " " ++ r.level.name ++ Text.ofString " " ++ r.logger ++
    Text.ofString ": " ++ message) r.raised)

end Log

end JsonTap
