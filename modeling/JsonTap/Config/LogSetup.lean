import JsonTap.Config.Settings
import JsonTap.Log.Sink

/-!
# Setting logging up

Records go to the standard output, and to the log file besides if there is one. The file is opened
at once, with the directories above it.
-/

namespace JsonTap.Config

inductive LogSetupFault where
  | listener (f : Fault)
  /-- The log file cannot be opened; the disk is as it is by then. -/
  | disk (f : DiskFault) (disk : Disk)

def setupLogger : Text := "payload_listener.config.config"

def LoggingSettings.handlers (s : LoggingSettings) : List Log.HandlerSpec :=
  ⟨.standardOutput, Log.Level.notSet, none⟩ ::
    (if s.file.isEmpty then [] else [⟨.file s.file, Log.Level.notSet, none⟩])

def LoggingSettings.sink (s : LoggingSettings) : Log.Sink :=
  .configure ((Log.Level.ofName? s.level).getD Log.Level.info) (s.format == .json) .standardError
    s.handlers

/-- The disk with the log file and the directories above it. Directories are made by their path as
it is written; the file is opened by its path from the root. -/
def LoggingSettings.openFile (s : LoggingSettings) (disk : Disk) :
    Except (DiskFault × Disk) Disk :=
  if s.file.isEmpty then .ok disk
  else do
    let above := (Disk.splitLast s.file).1
    let made ← if above.isEmpty then .ok disk else disk.makeDirectories above
    (made.append (disk.absolute s.file) []).mapError (·, made)

def LoggingSettings.note (s : LoggingSettings) : Log.Record :=
  .note Log.Level.debug setupLogger
    (Text.ofString "Logging configured: level=" ++ s.level ++ Text.ofString ", format=" ++
      s.format.name ++ Text.ofString ", file=" ++
      (if s.file.isEmpty then Text.ofString "console-only" else s.file)) []

def setUpLogging (d : Document) (created : Double) (o : Log.Output) :
    Except LogSetupFault (Log.Sink × Log.Output) :=
  match d.loggingSettings with
  | .error f => .error (.listener f)
  | .ok s =>
    match s.openFile o.disk with
    | .error (f, disk) => .error (.disk f disk)
    | .ok disk => .ok (s.sink, ({ o with disk := disk } : Log.Output).emit s.sink created [] s.note)

end JsonTap.Config
