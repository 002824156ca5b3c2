import JsonTap.Encoding.Utf8
import JsonTap.Json.Parser
import JsonTap.Json.Printer
import JsonTap.Fault

/-!
# Payloads

A payload arrives in chunks. It is decoded as a whole, so that a character may be split over two
chunks, and read as one strict JSON value. The log shows the value indented.
-/

namespace JsonTap.Payload

def text (chunks : List (List Octet)) : Text := Utf8.decode chunks.flatten

def parse (t : Text) : Except Fault Json.Value :=
  match Json.parse t with
  | .ok v => .ok v
  | .error r => .error (Fault.malformedBody r)

/-- A datum as indented JSON; none if it holds octets, which JSON cannot show. -/
def render? (d : Datum) : Option Text := d.toJson?.map Json.Value.indented

end JsonTap.Payload
