import JsonTap.Datum.Basic
import JsonTap.Json.Refusal

/-!
# Errors of the listener

An error has a kind, which fixes the status of a response and a code for machines, a message and
details. Each cause has its own function below, so that message and details are worded once.
-/

namespace JsonTap

inductive FaultKind where
  | server
  | configuration
  | malformedBody
  | bodyTooLarge
  | bind
  deriving DecidableEq, Repr

def FaultKind.status : FaultKind → Nat
  | .malformedBody => 400
  | .bodyTooLarge => 413
  | _ => 500

def FaultKind.code : FaultKind → Text
  | .server => "server_error"
  | .configuration => "config_error"
  | .malformedBody => "malformed_body"
  | .bodyTooLarge => "body_too_large"
  | .bind => "bind_error"

/-- Whether the error means that a value could not be used. -/
def FaultKind.isValueFault : FaultKind → Bool
  | .malformedBody => true
  | _ => false

structure Fault where
  kind : FaultKind
  message : Text
  details : Fields

namespace Fault

/-- A setting that cannot be used: which one, and its value. -/
def configuration (message : Text) (field : Datum) (value : Datum) (others : Fields) : Fault :=
  ⟨.configuration, message, Named.merge [("field", field), ("value", value)] others⟩

def refusalDetails : Json.Refusal → Fields
  | .malformed _ p => [("line", .int p.line), ("column", .int p.column), ("pos", .int p.pos)]
  | .constant name => [("constant", .str name)]
  | .duplicateKey key => [("key", .str key)]
  | .outOfRange literal => [("number", .str literal)]

def malformedBody (r : Json.Refusal) : Fault := ⟨.malformedBody, r.message, refusalDetails r⟩

/-- A body above the cap, with what had arrived when this was noticed. -/
def bodyTooLarge (cap : Int) (received : Nat) : Fault :=
  ⟨.bodyTooLarge, Text.ofString "Request body exceeds " ++ Text.ofInt cap ++ Text.ofString " bytes",
    [("max_body_size", .int cap), ("received", .int received)]⟩

end Fault

end JsonTap
