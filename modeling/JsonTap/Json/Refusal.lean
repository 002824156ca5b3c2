import JsonTap.Text.Quoted

/-!
# Why a text is no strict JSON

A text is refused for its syntax, with the place, or for what strictness forbids: a constant that
JSON does not have, a key twice in one object, a number too great for binary64.
-/

namespace JsonTap.Json

inductive SyntaxFault where
  | expectingValue
  | expectingName
  | expectingColon
  | expectingComma
  | unterminatedString
  | controlCharacter
  | invalidEscape
  | invalidUnit
  | extraData
  deriving DecidableEq, Repr

def SyntaxFault.message : SyntaxFault → Text
  | .expectingValue => "Expecting value"
  | .expectingName => "Expecting property name enclosed in double quotes"
  | .expectingColon => "Expecting ':' delimiter"
  | .expectingComma => "Expecting ',' delimiter"
  | .unterminatedString => "Unterminated string starting at"
  | .controlCharacter => "Invalid control character at"
  | .invalidEscape => "Invalid \\escape"
  | .invalidUnit => "Invalid \\uXXXX escape"
  | .extraData => "Extra data"

/-- A place in a text: the index from 0, and line and column from 1. Only a line feed ends a
line. -/
structure Place where
  line : Nat
  column : Nat
  pos : Nat
  deriving DecidableEq, Repr

def Place.after (before : Text) : Place where
  line := before.count ('\n' : CodePoint) + 1
  column := (before.reverse.takeWhile (· != ('\n' : CodePoint))).length + 1
  pos := before.length

inductive Refusal where
  | malformed (fault : SyntaxFault) (place : Place)
  | constant (name : Text)
  | duplicateKey (key : Text)
  | outOfRange (literal : Text)
  deriving DecidableEq

def Refusal.message : Refusal → Text
  | .malformed fault _ => fault.message
  | .constant name => Text.ofString "Non-standard JSON constant " ++ Text.quoted name
  | .duplicateKey key => Text.ofString "Duplicate key " ++ Text.quoted key
  | .outOfRange literal =>
    Text.ofString "Number " ++ Text.quoted literal ++ Text.ofString " is out of range"

end JsonTap.Json
