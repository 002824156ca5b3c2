import JsonTap.Config.Defaults
import JsonTap.Log.Record

/-!
# Environment variables

Each known option has an environment variable, which wins over the file whenever it is set, even to
the empty text.
-/

namespace JsonTap.Config

abbrev Environment := Named Text

/-- What the names of all variables begin with. -/
def variableStart : Text := "LISTENER_"

/-- The variable for an option of a section. -/
def variableName (topic key : Text) : Text :=
  variableStart ++ Unicode.upper topic ++ Text.ofString "_" ++ Unicode.upper key

def loaderLogger : Text := "payload_listener.config.loader"

def overrideNote (k : Known) : Log.Record :=
  .note Log.Level.debug loaderLogger "Applied environment override for config key"
    [("event", .str "listener.config.env_override_applied"), ("section", .str k.topic.name),
      ("key", .str k.key), ("env_var", .str (variableName k.topic.name k.key))]

namespace Document

/-- Overrides one option if its variable is set. -/
def overrideOption (env : Environment) (d : Document) (k : Known) : Document :=
  match env.get? (variableName k.topic.name k.key) with
  | none => d
  | some value => (d.ensureSection k.topic.name).put k.topic.name k.key value

/-- Overrides all known options whose variables are set. -/
def override (env : Environment) (d : Document) : Document :=
  Known.all.foldl (overrideOption env) d

end Document

def overrideNotes (env : Environment) : List Log.Record :=
  (Known.all.filter fun k => env.has (variableName k.topic.name k.key)).map overrideNote

end JsonTap.Config
