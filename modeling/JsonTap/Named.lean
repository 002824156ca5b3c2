import JsonTap.Text.Basic

/-!
# Named things in order

A list of pairs with distinct names. Writing a name that is there changes it in its place; a new
name goes to the end. `Named.putNew` and `Named.fill` leave what is there.
-/

namespace JsonTap

/-- Things with names, in order. -/
abbrev Named (α : Type) := List (Text × α)

namespace Named

variable {α : Type}

def has (xs : Named α) (name : Text) : Bool := xs.any (·.1 == name)

def get? (xs : Named α) (name : Text) : Option α := xs.lookup name

/-- `name` set to `x`: in its place if it is there, at the end if not. -/
def put (xs : Named α) (name : Text) (x : α) : Named α :=
  match xs with
  | [] => [(name, x)]
  | (n, old) :: rest => if n = name then (n, x) :: rest else (n, old) :: put rest name x

/-- `name` set to `x` unless it is there. -/
def putNew (xs : Named α) (name : Text) (x : α) : Named α :=
  if xs.has name then xs else xs ++ [(name, x)]

/-- What has a name changed by `f`; nothing happens if there is nothing. -/
def change (xs : Named α) (name : Text) (f : α → α) : Named α :=
  xs.map fun (n, x) => if n = name then (n, f x) else (n, x)

/-- The first list with all of the second written over it. -/
def merge (xs ys : Named α) : Named α := ys.foldl (fun acc y => acc.put y.1 y.2) xs

/-- The first list with those of the second that it lacks. -/
def fill (xs ys : Named α) : Named α := ys.foldl (fun acc y => acc.putNew y.1 y.2) xs

/-- Distinct names from any pairs, of which the last one for a name holds. -/
def ofPairs (ps : List (Text × α)) : Named α := merge [] ps

end Named

end JsonTap
