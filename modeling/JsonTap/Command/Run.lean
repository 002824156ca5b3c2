import JsonTap.Command.Options
import JsonTap.Command.Usage
import JsonTap.Config.Load
import JsonTap.Config.LogSetup
import JsonTap.Service

/-!
# Running the program

The program reads its command line, loads the settings, which the command line overrides, sets
logging up, and runs the service. A fault of the listener is logged and ends the program with one;
other failures go through to whoever runs it.
-/

namespace JsonTap.Command

open Config (Document Environment LoadFault Loaded)

/-! ### Settings -/

/-- Overrides one setting if there is something to override it with. -/
def overrideWith (t : Config.Topic) (key : Text) (value : Option Text) (d : Document) : Document :=
  match value with
  | some v => d.setText t key v
  | none => d

namespace Options

def hostsSetting (o : Options) : Option Text :=
  match o.hosts with
  | none | some [] => none
  | some hs => some (Text.join "," hs)

/-- The log level as a setting; an empty one is no setting. -/
def levelSetting (o : Options) : Option Text := o.logLevel.filter (!·.isEmpty)

def override (o : Options) (d : Document) : Document :=
  overrideWith .logging "log_level" o.levelSetting <|
    overrideWith .server "max_body_size" o.maxBodySize <|
      overrideWith .server "hosts" o.hostsSetting <|
        overrideWith .server "port" (o.port.map Text.ofInt) d

end Options

/-- Checks the settings that a command line can override. -/
def checkOverridden (d : Document) : Except Fault Unit := do
  let _ ← d.serverSettings
  let _ ← d.loggingSettings
  .ok ()

/-- Loads the settings and overrides them; they are checked before and after. -/
def loadSettings (o : Options) (env : Environment) (disk : Disk) :
    List Log.Record × Except LoadFault Loaded :=
  match Config.load o.config env disk with
  | (notes, .error e) => (notes, .error e)
  | (notes, .ok l) =>
    let document := o.override l.document
    (notes, match checkOverridden document with
      | .ok () => .ok ⟨l.path, document⟩
      | .error f => .error (.listener f))

/-! ### The program -/

/-- What the program meets outside. -/
structure Surroundings where
  environment : Environment
  disk : Disk
  world : Service.World
  /-- The time of all records. -/
  now : Double

inductive Escape where
  | load (f : LoadFault)
  | disk (f : DiskFault)
  | serve (e : Net.ServeFault)

def Escape.message : Escape → Text
  | .load f => f.message
  | .disk f => f.message
  | .serve e => e.message

inductive Ending where
  /-- The command line asks for no run: what to say, where, and the code. -/
  | told (code : Nat)
  | exit (code : Nat)
  | escaped (e : Escape)

/-- What the program leaves behind. -/
structure Outcome where
  ending : Ending
  sink : Log.Sink
  output : Log.Output
  calls : List Net.Call

def logger : Text := "payload_listener.cli"

/-- Where records go until logging is set up. -/
def firstSink : Log.Sink := .configure Log.Level.info false .standardError []

def failureNote (f : Fault) : Log.Record :=
  .note Log.Level.error logger
    (Text.ofString "Could not start payload-listener: " ++ f.message) []

def failureCode : Nat := 1

def usageCode : Nat := 2

def fail (s : Surroundings) (sink : Log.Sink) (o : Log.Output) (calls : List Net.Call) (f : Fault) :
    Outcome :=
  ⟨.exit failureCode, sink, o.emit sink s.now [] (failureNote f), calls⟩

def serve (s : Surroundings) (sink : Log.Sink) (o : Log.Output) (d : Document) : Outcome :=
  match d.serverSettings, d.metricsSettings with
  | .error f, _ => fail s sink o [] f
  | .ok _, .error f => fail s sink o [] f
  | .ok server, .ok metrics =>
    let (l, e) := Service.run s.world server metrics
    let o := o.emitAll sink s.now l.records
    match e with
    | none => ⟨.exit 0, sink, o, l.system.calls⟩
    | some (.listener f) => fail s sink o l.system.calls f
    | some e => ⟨.escaped (.serve e), sink, o, l.system.calls⟩

/-- Runs the program with options. -/
def start (s : Surroundings) (options : Options) : Outcome :=
  let (notes, r) := loadSettings options s.environment s.disk
  let o := (⟨[], [], s.disk⟩ : Log.Output).emitAll firstSink s.now notes
  match r with
  | .error (.listener f) => fail s firstSink o [] f
  | .error e => ⟨.escaped (.load e), firstSink, o, []⟩
  | .ok l =>
    match Config.setUpLogging l.document s.now o with
    | .error (.listener f) => fail s firstSink o [] f
    | .error (.disk f disk) => ⟨.escaped (.disk f), firstSink, { o with disk := disk }, []⟩
    | .ok (sink, o) => serve s sink o l.document

/-- What is said about a command line that is refused. -/
def refusal (e : UsageFault) : Text :=
  usage ++ programName ++ Text.ofString ": error: " ++ e.message ++ Text.ofString "\n"

/-- Runs the program on the words of a command line. -/
def run (s : Surroundings) (words : List Text) : Outcome :=
  match ask words with
  | .help => ⟨.told 0, firstSink, ⟨help, [], s.disk⟩, []⟩
  | .refused e => ⟨.told usageCode, firstSink, ⟨[], refusal e, s.disk⟩, []⟩
  | .run o => start s o

end JsonTap.Command
