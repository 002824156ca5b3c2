import JsonTap.Text.Basic

/-!
# Flags

The flags that the command line knows: their names, the name of their argument if they take one, and
what the help says about them.
-/

namespace JsonTap.Command

def programName : Text := "payload-listener"

/-- What the program does, in one sentence. -/
def purpose : Text := "Log JSON payloads sent to this HTTP listener and answer 204."

inductive Flag where
  | help
  | config
  | port
  | host
  | maxBodySize
  | logLevel
  deriving DecidableEq, Repr

namespace Flag

def all : List Flag := [.help, .config, .port, .host, .maxBodySize, .logLevel]

/-- The names of a flag; one letter after a single hyphen, or words after two. -/
def names : Flag → List Text
  | .help => ["-h", "--help"]
  | .config => ["--config"]
  | .port => ["--port"]
  | .host => ["--host"]
  | .maxBodySize => ["--max-body-size"]
  | .logLevel => ["--log-level"]

def argument? : Flag → Option Text
  | .help => none
  | .config => some "CONFIG"
  | .port => some "PORT"
  | .host => some "ADDR"
  | .maxBodySize => some "MAX_BODY_SIZE"
  | .logLevel => some "LOG_LEVEL"

def purpose : Flag → Text
  | .help => "show this help message and exit"
  | .config => "path to an INI configuration file"
  | .port => "TCP port to bind (default 8888)"
  | .host => "address to bind; repeat for several (default 0.0.0.0 and ::)"
  | .maxBodySize => "reject bodies above this size, e.g. 1MB (0 = no cap)"
  | .logLevel => "DEBUG, INFO, WARNING, ..."

def title (f : Flag) : Text := Text.join "/" f.names

/-- Every name with its flag, in the order of the help. -/
def named : List (Text × Flag) := all.flatMap fun f => f.names.map fun n => (n, f)

def ofName? (name : Text) : Option Flag := named.lookup name

end Flag

end JsonTap.Command
