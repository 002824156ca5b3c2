import JsonTap.Config.Environment
import JsonTap.Config.Ini
import JsonTap.Config.Settings
import JsonTap.Datum.Text
import JsonTap.Disk

/-!
# Loading settings

The settings file is the one that is asked for, else the one that the environment names, else a
usual one. What it says is overridden by environment variables, and filled up with defaults. A file
that is not there says nothing. All settings are checked at once, so that a value that cannot be
used stops the program at its start.
-/

namespace JsonTap.Config

inductive LoadFault where
  | listener (f : Fault)
  /-- The file is no text. -/
  | damaged (u : Utf8.Undecodable)
  | disk (f : DiskFault)

def LoadFault.message : LoadFault → Text
  | .listener f => f.message
  | .damaged u => u.message
  | .disk f => f.message

/-- The variable that names the settings file. -/
def fileVariable : Text := "LISTENER_CONFIG"

def usualFile : Text := "config/listener.conf"

/-- The settings file: what is asked for, else what the environment says, else the usual one.
Empty names do not count. -/
def chooseFile (asked : Option Text) (env : Environment) : Text :=
  let named := [asked, env.get? fileVariable].filterMap id
  (named.find? (!·.isEmpty)).getD usualFile

def fileNote (message : Text) : Log.Record := .note Log.Level.debug loaderLogger message []

/-- The document of the settings file, with the note about it. -/
def readFile (disk : Disk) (path : Text) : Except LoadFault (Document × Log.Record) :=
  match disk.find? path with
  | none =>
    .ok (.empty, fileNote (Text.ofString "Configuration file " ++ path ++
      Text.ofString " not found; using defaults"))
  | some .directory => .error (.disk ⟨.isDirectory, path⟩)
  | some (.file content) =>
    match Ini.readFile content with
    | .ok d => .ok (d, fileNote (Text.ofString "Read configuration file " ++ path))
    | .error (.damaged u) => .error (.damaged u)
    | .error (.refused f) =>
      .error (.listener (.configuration (Text.ofString "Cannot parse configuration file " ++ path ++
        Text.ofString ": " ++ f.message path) .null (.str path) []))

/-- A document with environment and defaults applied. -/
def settle (env : Environment) (d : Document) : Document := (d.override env).populate

/-- Loaded settings: where from, and the document. -/
structure Loaded where
  path : Text
  document : Document

/-- Loads the settings. The notes are those made until the end or the fault. -/
def load (asked : Option Text) (env : Environment) (disk : Disk) :
    List Log.Record × Except LoadFault Loaded :=
  let path := chooseFile asked env
  match readFile disk path with
  | .error e => ([], .error e)
  | .ok (d, note) =>
    let document := settle env d
    (note :: overrideNotes env,
      match document.check with
      | .ok () => .ok ⟨path, document⟩
      | .error f => .error (.listener f))

inductive SetFault where
  /-- The section of defaults cannot be added. -/
  | defaultSection
  /-- The value is an integer with too many digits. -/
  | longInteger
  deriving DecidableEq

def SetFault.message : SetFault → Text
  | .defaultSection => Text.ofString "Invalid section name: " ++ Text.quoted defaultName
  | .longInteger => Datum.longIntegerMessage

/-- Sets an option to the text of a datum, in a section that is added if need be. The section is
there afterwards even if the datum cannot be written. -/
def Document.set (d : Document) (name key : Text) (value : Datum) : Document × Option SetFault :=
  if name = defaultName then (d, some .defaultSection)
  else
    let d := d.ensureSection name
    match value.text? with
    | none => (d, some .longInteger)
    | some t => (d.put name key t, none)

def Document.setText (d : Document) (t : Topic) (key value : Text) : Document :=
  (d.ensureSection t.name).put t.name key value

end JsonTap.Config
