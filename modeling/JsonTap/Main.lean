import JsonTap.Command.Run
import Std.Time.DateTime.Timestamp

/-!
# The command line

Reads the environment and the settings file, runs the program on the words of the command line, and
writes what it says and logs. The network that it runs on knows numeric addresses only.
-/

namespace JsonTap

def octetsOf (bytes : ByteArray) : List Octet := bytes.toList.map fun b => Utf8.octet b.toNat

def bytesOf (octets : List Octet) : ByteArray := ⟨(octets.map fun b => b.val.toUInt8).toArray⟩

/-- The variables that can matter. -/
def knownVariables : List Text :=
  Config.fileVariable :: Config.Known.all.map fun k => Config.variableName k.topic.name k.key

/-- The environment, as far as it can matter. -/
def readEnvironment : IO Config.Environment :=
  knownVariables.filterMapM fun name => do
    let value ← IO.getEnv name.toStringLossy
    return value.map fun v => (name, Text.ofString v)

def readEntry (path : Text) : IO (List (Text × Entry)) := do
  try
    let bytes ← IO.FS.readBinFile path.toStringLossy
    return [(path, .file (octetsOf bytes))]
  catch
    | .noFileOrDirectory .. => return []
    | _ => return [(path, .directory)]

def readHome : IO (List Text) := do
  let path := Text.ofString (← IO.currentDir).toString
  return (Text.splitAt '/' path).filter (!·.isEmpty)

/-- The disk, as far as the command line asks for it. -/
def readDisk (asked : Command.Asked) (env : Config.Environment) : IO Disk := do
  let home ← readHome
  match asked with
  | .run o => return Disk.ofEntries home (← readEntry (Config.chooseFile o.config env))
  | _ => return ⟨home, []⟩

def writeDisk (before after : Disk) : IO Unit :=
  for (place, entry) in after.entries do
    unless (before.entries.lookup place).isSome do
      let path := (Text.ofString "/" ++ Text.join "/" place).toStringLossy
      match entry with
      | .directory => IO.FS.createDirAll path
      | .file content => IO.FS.withFile path .append fun h => h.write (bytesOf content)

def readClock : IO Double := do
  let now ← Std.Time.Timestamp.now
  return Timestamp.ofMicros (now.toNanosecondsSinceUnixEpoch.val / 1000)

/-- Runs the program on the words of a command line, and returns its code. -/
def runProgram (words : List Text) : IO Nat := do
  let env ← readEnvironment
  let disk ← readDisk (Command.ask words) env
  let world : Service.World := ⟨.plain, .run, .run⟩
  let result := Command.run ⟨env, disk, world, ← readClock⟩ words
  (← IO.getStdout).write (bytesOf (Utf8.encode result.output.standardOutput))
  (← IO.getStderr).write (bytesOf (Utf8.encode result.output.standardError))
  writeDisk disk result.output.disk
  match result.ending with
  | .told code | .exit code => return code
  | .escaped e =>
    IO.eprintln e.message.toStringLossy
    return Command.failureCode

end JsonTap

def main (args : List String) : IO UInt32 := do
  let code ← JsonTap.runProgram (args.map JsonTap.Text.ofString)
  return code.toUInt32
