import JsonTap.Json.Value
import JsonTap.Named

/-!
# Data in fields and details

A `Datum` is what a field of a log record, a detail of an error or a setting may hold: JSON's kinds
of values, and besides them tuples and octets. `Fields` are named data in order.
-/

namespace JsonTap

inductive Datum where
  | null
  | bool (b : Bool)
  | int (n : Int)
  | num (x : Double)
  | str (t : Text)
  | list (items : List Datum)
  | tuple (items : List Datum)
  | map (entries : List (Text × Datum))
  | octets (bs : List Octet)
  deriving Inhabited

/-- Named data in order. -/
abbrev Fields := Named Datum

def Fields.present (fs : Fields) : Fields :=
  fs.filter fun f => match f.2 with
    | .null => false
    | _ => true

/-! ### JSON as data, and data as JSON -/

mutual

def Datum.ofJson : Json.Value → Datum
  | .null => .null
  | .bool b => .bool b
  | .int n => .int n
  | .num x => .num x
  | .str t => .str t
  | .arr vs => .list (Datum.listOfJson vs)
  | .obj ms => .map (Datum.entriesOfJson ms)

def Datum.listOfJson : List Json.Value → List Datum
  | [] => []
  | v :: vs => Datum.ofJson v :: Datum.listOfJson vs

def Datum.entriesOfJson : List (Text × Json.Value) → List (Text × Datum)
  | [] => []
  | (k, v) :: ms => (k, Datum.ofJson v) :: Datum.entriesOfJson ms

end

mutual

/-- A datum as a JSON value; tuples become arrays, and `octets` says what octets become. -/
def Datum.toJsonWith (octets : List Octet → Option Json.Value) : Datum → Option Json.Value
  | .null => some .null
  | .bool b => some (.bool b)
  | .int n => some (.int n)
  | .num x => some (.num x)
  | .str t => some (.str t)
  | .list ds => (Datum.listToJson octets ds).map .arr
  | .tuple ds => (Datum.listToJson octets ds).map .arr
  | .map es => (Datum.entriesToJson octets es).map .obj
  | .octets bs => octets bs

def Datum.listToJson (octets : List Octet → Option Json.Value) :
    List Datum → Option (List Json.Value)
  | [] => some []
  | d :: ds =>
    match Datum.toJsonWith octets d, Datum.listToJson octets ds with
    | some v, some vs => some (v :: vs)
    | _, _ => none

def Datum.entriesToJson (octets : List Octet → Option Json.Value) :
    List (Text × Datum) → Option (List (Text × Json.Value))
  | [] => some []
  | (k, d) :: es =>
    match Datum.toJsonWith octets d, Datum.entriesToJson octets es with
    | some v, some ms => some ((k, v) :: ms)
    | _, _ => none

end

/-- A datum as a JSON value; none if it holds octets. -/
def Datum.toJson? (d : Datum) : Option Json.Value := d.toJsonWith fun _ => none

end JsonTap
