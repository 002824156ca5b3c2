import JsonTap.Log.Level
import JsonTap.Log.Template
import JsonTap.Fault

/-!
# Log records

A record has a level, the name of its logger, a message template with its data, a context (the
fields bound when it was made), further fields, and an exception if it tells of one.
-/

namespace JsonTap.Log

inductive Raised where
  /-- There is no exception at hand. -/
  | nothing
  /-- An exception: its name, its message, and the report about it. -/
  | exception (name message report : Text)
  deriving DecidableEq

/-- A log record, before it gets a time. -/
structure Record where
  level : Level
  logger : Text
  template : Text
  args : List Datum
  /-- The context; null when there is none. -/
  context : Datum
  extra : Fields
  raised : Option Raised

namespace Record

def note (level : Level) (logger message : Text) (extra : Fields) : Record :=
  ⟨level, logger, message, [], .null, extra, none⟩

def message (r : Record) : Except TemplateFault Text := Template.fill r.template r.args

/-- Names that belong to the record itself. -/
def ownNames : List Text :=
  ["name", "msg", "args", "levelname", "levelno", "pathname", "filename", "module", "exc_info",
    "exc_text", "stack_info", "lineno", "funcName", "created", "msecs", "relativeCreated", "thread",
    "threadName", "processName", "process"]

/-- Names that no further field may have: the record's own, and those it gets when it is written. -/
def reservedNames : List Text := "message" :: "asctime" :: ownNames

end Record

/-! ### Exceptions in records -/

/-- Where the listener's errors are defined, as reports show it. -/
def faultScope : Text := "payload_listener.exceptions."

def faultName : FaultKind → Text
  | .server => "ListenerError"
  | .configuration => "ConfigurationError"
  | .malformedBody => "MalformedBodyError"
  | .bodyTooLarge => "BodyTooLargeError"
  | .bind => "BindError"

def faultNames : List Text :=
  [FaultKind.server, .configuration, .malformedBody, .bodyTooLarge, .bind].map faultName

namespace Raised

/-- The report of an exception without a trace: its name, with the scope if it is one of the
listener's own, and its message if it has one. -/
def plainReport (name message : Text) : Text :=
  (if faultNames.contains name then faultScope else []) ++ name ++
    (if message.isEmpty then [] else Text.ofString ": " ++ message)

/-- An exception without a trace, by its name and message. -/
def ofName (name message : Text) : Raised := .exception name message (plainReport name message)

def name : Raised → Text
  | .nothing => []
  | .exception n _ _ => n

def message : Raised → Text
  | .nothing => "None"
  | .exception _ m _ => m

/-- The report of the exception, without the line feed at its end. -/
def report : Raised → Text
  | .nothing => "NoneType: None"
  | .exception _ _ r => r

end Raised

end JsonTap.Log
