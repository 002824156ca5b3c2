import JsonTap.Number.Double

/-!
# JSON values

Integers are exact and apart from the binary64 numbers, and the members of an object keep their
order. `Value.Strict` holds of the values that strict JSON text can denote: finite numbers, and no
key twice in one object, at any depth.
-/

namespace JsonTap.Json

inductive Value where
  | null
  | bool (b : Bool)
  | int (n : Int)
  | num (x : Double)
  | str (t : Text)
  | arr (items : List Value)
  | obj (members : List (Text × Value))
  deriving Inhabited

mutual

/-- Whether all numbers are finite and no object repeats a key. -/
def Value.Strict : Value → Prop
  | .num x => x.isFinite = true
  | .arr items => Value.AllStrict items
  | .obj members => Value.MembersStrict members
  | _ => True

def Value.AllStrict : List Value → Prop
  | [] => True
  | v :: vs => v.Strict ∧ Value.AllStrict vs

/-- `Value.Strict` for every member, and no key occurs again later. -/
def Value.MembersStrict : List (Text × Value) → Prop
  | [] => True
  | (k, v) :: ms => v.Strict ∧ (∀ m ∈ ms, m.1 ≠ k) ∧ Value.MembersStrict ms

end

def Value.get? (v : Value) (key : Text) : Option Value :=
  match v with
  | .obj ms => ms.lookup key
  | _ => none

end JsonTap.Json
