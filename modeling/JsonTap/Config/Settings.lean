import JsonTap.Config.Defaults
import JsonTap.Config.Size
import JsonTap.Log.Level

/-!
# Settings

The settings of the server, of logging and of the metrics, read from a document and checked. Each
getter reads effective values and raises a configuration fault for the first value that cannot be
used. In a document that has been filled up every known option has a value.
-/

namespace JsonTap.Config

inductive LogFormat where
  | text
  | json
  deriving DecidableEq, Repr

def LogFormat.name : LogFormat → Text
  | .text => "text"
  | .json => "json"

def LogFormat.all : List LogFormat := [.text, .json]

structure ServerSettings where
  port : Nat
  hosts : List Text
  maxBodySize : Nat
  backlog : Int
  deriving DecidableEq

structure LoggingSettings where
  /-- The name of the level. -/
  level : Text
  format : LogFormat
  /-- The file that records are written to besides; empty if there is none. -/
  file : Text
  deriving DecidableEq

structure MetricsSettings where
  enabled : Bool
  host : Text
  port : Nat
  deriving DecidableEq

namespace Document

def value (d : Document) (t : Topic) (key : Text) : Text := (d.get? t.name key).getD []

def settingName (t : Topic) (key : Text) : Text := t.name ++ Text.ofString "." ++ key

/-- The port of a section, which is a number from 0 to 65535. -/
def port (d : Document) (t : Topic) : Except Fault Nat :=
  let raw := d.value t "port"
  let field : Datum := .str (settingName t "port")
  match Written.int? raw with
  | none =>
    .error (.configuration (Text.ofString "Invalid port: " ++ Text.quoted raw) field (.str raw) [])
  | some n =>
    if 0 ≤ n && n ≤ 65535 then .ok n.toNat
    else
      .error
        (.configuration (Text.ofString "Port out of range: " ++ Text.ofInt n) field (.int n) [])

/-- The parts of a list between commas, without blanks around them; empty ones are dropped. -/
def listItems (t : Text) : List Text :=
  ((Text.splitAt ',' t).map Unicode.strip).filter (!·.isEmpty)

/-- The hosts, of which there is at least one. -/
def hosts (d : Document) : Except Fault (List Text) :=
  match listItems (d.value .server "hosts") with
  | [] =>
    .error (.configuration "At least one bind host is required"
      (.str (settingName .server "hosts")) (.str []) [])
  | hs => .ok hs

/-- The greatest size of a body, which is not negative; zero means that there is none. -/
def maxBodySize (d : Document) : Except Fault Nat := do
  let n ← parseSize (d.value .server "max_body_size")
  if n < 0 then
    .error (.configuration "max_body_size must not be negative"
      (.str (settingName .server "max_body_size")) (.int n) [])
  else .ok n.toNat

def backlog (d : Document) : Except Fault Int :=
  let raw := d.value .server "backlog"
  match Written.int? raw with
  | some n => .ok n
  | none =>
    .error (.configuration "backlog must be an integer"
      (.str (settingName .server "backlog")) (.str raw) [])

def serverSettings (d : Document) : Except Fault ServerSettings := do
  let hosts ← d.hosts
  let maxBodySize ← d.maxBodySize
  let backlog ← d.backlog
  let port ← d.port .server
  .ok ⟨port, hosts, maxBodySize, backlog⟩

/-- The name of the level, which is a known one in any case. -/
def logLevel (d : Document) : Except Fault Text :=
  let name := Unicode.upper (Unicode.strip (d.value .logging "log_level"))
  if (Log.Level.ofName? name).isSome then .ok name
  else
    .error (.configuration (Text.ofString "Unknown log level: " ++ name)
      (.str (settingName .logging "log_level")) (.str name) [])

/-- The format of records, by its name in any case. -/
def logFormat (d : Document) : Except Fault LogFormat :=
  let name := Unicode.lower (Unicode.strip (d.value .logging "log_format"))
  match LogFormat.all.find? (·.name == name) with
  | some f => .ok f
  | none =>
    .error (.configuration
      (Text.ofString "log_format must be one of " ++ Text.join ", " (LogFormat.all.map (·.name)))
      (.str (settingName .logging "log_format")) (.str name) [])

def loggingSettings (d : Document) : Except Fault LoggingSettings := do
  let level ← d.logLevel
  let format ← d.logFormat
  .ok ⟨level, format, Unicode.strip (d.value .logging "log_file")⟩

def trueWords : List Text := ["1", "true", "yes", "on"]

def metricsSettings (d : Document) : Except Fault MetricsSettings := do
  let enabled := trueWords.contains (Unicode.lower (Unicode.strip (d.value .metrics "enabled")))
  let host := Unicode.strip (d.value .metrics "host")
  let port ← d.port .metrics
  .ok ⟨enabled, host, port⟩

def check (d : Document) : Except Fault Unit := do
  let _ ← d.serverSettings
  let _ ← d.loggingSettings
  let _ ← d.metricsSettings
  .ok ()

end Document

end JsonTap.Config
