import JsonTap.Config.Document

/-!
# Known settings

The sections and the options that the listener knows, each with the value it has when nothing else
is said. `Document.populate` fills a document up with them and never changes a value that an option
has already.
-/

namespace JsonTap.Config

inductive Topic where
  | server
  | logging
  | metrics
  deriving DecidableEq, Repr

def Topic.name : Topic → Text
  | .server => "server"
  | .logging => "logging"
  | .metrics => "metrics"

/-- The known options of a section, with their default values. -/
def Topic.defaults : Topic → Options
  | .server =>
    [("port", "8888"), ("hosts", "0.0.0.0,::"), ("max_body_size", "0"), ("backlog", "128")]
  | .logging => [("log_level", "INFO"), ("log_format", "text"), ("log_file", "")]
  | .metrics => [("enabled", "false"), ("host", ""), ("port", "9888")]

def Topic.all : List Topic := [.server, .logging, .metrics]

/-- An option of a known section, with its default value. -/
structure Known where
  topic : Topic
  key : Text
  default : Text
  deriving DecidableEq

/-- All known options, section by section. -/
def Known.all : List Known :=
  Topic.all.flatMap fun t => t.defaults.map fun (key, value) => ⟨t, key, value⟩

namespace Document

/-- Fills an option with its default value if it has none. -/
def populateOption (topic : Text) (d : Document) (option : Text × Text) : Document :=
  if d.hasOption topic option.1 then d else d.put topic option.1 option.2

def populateTopic (d : Document) (t : Topic) : Document :=
  t.defaults.foldl (populateOption t.name) (d.ensureSection t.name)

/-- Adds the known sections and options that a document lacks. -/
def populate (d : Document) : Document := Topic.all.foldl populateTopic d

end Document

end JsonTap.Config
