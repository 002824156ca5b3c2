import JsonTap.Disk
import JsonTap.Encoding.Utf8
import JsonTap.Log.Line

/-!
# Where records go

A sink has a threshold and a list of handlers. A handler writes to one place, has a threshold of its
own and a style. A record below a threshold is not written, nor is one that cannot be: neither
stops the program.
-/

namespace JsonTap.Log

inductive Target where
  | standardOutput
  | standardError
  | file (path : Text)
  deriving DecidableEq

inductive Style where
  | text
  | json
  /-- Level and message behind a fixed word. -/
  | own
  deriving DecidableEq

structure Handler where
  target : Target
  level : Level
  style : Style
  deriving DecidableEq

/-- A handler before it is set up: thresholds and styles may be open. -/
structure HandlerSpec where
  target : Target
  level : Level
  style : Option Style
  deriving DecidableEq

structure Sink where
  level : Level
  handlers : List Handler
  deriving DecidableEq

namespace Sink

def initial : Sink := ⟨Level.warning, []⟩

/-- A sink with the given handlers, or with one that writes to `fallback` if there are none.
Thresholds and styles that are open are filled in. -/
def configure (level : Level) (json : Bool) (fallback : Target) (specs : List HandlerSpec) : Sink :=
  let specs := if specs.isEmpty then [⟨fallback, Level.notSet, none⟩] else specs
  let usual : Style := if json then .json else .text
  ⟨level, specs.map fun s =>
    ⟨s.target, if s.level = Level.notSet then level else s.level, s.style.getD usual⟩⟩

/-- Whether records of a level are made at all. -/
def isEnabled (s : Sink) (level : Level) : Bool := 0 < level && s.level ≤ level

end Sink

/-- A record as a handler writes it, without the end of the line. -/
def Style.line (style : Style) (created : Double) (bound : Fields) (r : Record) :
    Except LineFault Text :=
  match style with
  | .text => textLine created r
  | .json => jsonLine created bound r
  | .own => do
    let message ← r.message.mapError .template
    .ok (withReport (Text.ofString "own:" ++ r.level.name ++ Text.ofString ":" ++ message) r.raised)

def Target.takes (target : Target) (t : Text) : Bool :=
  match target with
  | .file _ => !t.any CodePoint.isSurrogate
  | _ => true

/-- What one handler writes for a record, if anything. -/
def Handler.output (h : Handler) (created : Double) (bound : Fields) (r : Record) : Text :=
  if h.level ≤ r.level then
    match h.style.line created bound r with
    | .ok t => if h.target.takes t then t ++ Text.ofString "\n" else []
    | .error _ => []
  else []

/-- What all handlers write for a record, in order, each with its place. -/
def Sink.output (s : Sink) (created : Double) (bound : Fields) (r : Record) :
    List (Target × Text) :=
  if s.isEnabled r.level then s.handlers.map fun h => (h.target, h.output created bound r) else []

/-! ### What has been written -/

/-- The standard streams so far, and the disk. -/
structure Output where
  standardOutput : Text
  standardError : Text
  disk : Disk

namespace Output

def write (o : Output) (target : Target) (t : Text) : Output :=
  match target with
  | .standardOutput => { o with standardOutput := o.standardOutput ++ t }
  | .standardError => { o with standardError := o.standardError ++ t }
  | .file path =>
    match o.disk.append path (Utf8.encode t) with
    | .ok disk => { o with disk := disk }
    | .error _ => o

def emit (o : Output) (s : Sink) (created : Double) (bound : Fields) (r : Record) : Output :=
  (s.output created bound r).foldl (fun o (target, t) => o.write target t) o

def emitAll (o : Output) (s : Sink) (created : Double) (rs : List Record) : Output :=
  rs.foldl (fun o r => o.emit s created [] r) o

end Output

end JsonTap.Log
