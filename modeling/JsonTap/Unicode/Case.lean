import JsonTap.Unicode.CaseTables
import JsonTap.Unicode.CaseContext

/-!
# Upper and lower case

The full case mappings: a code point may become a sequence, and a capital sigma at the end of a
word becomes a final sigma. A word ends at a sigma when a cased code point stands before it and none
after it, looking past the case-ignorable ones.
-/

namespace JsonTap.Unicode

/-- The code point that a run moves `c` to, if `c` belongs to the run. -/
def CaseRun.image? (r : CaseRun) (c : CodePoint) : Option CodePoint :=
  if r.first ≤ c.val && c.val ≤ r.last && (c.val - r.first) % r.stride = 0 then
    CodePoint.ofNat? ((c.val : Int) + r.shift).toNat
  else none

def mapCase (runs : List CaseRun) (sequences : List (Nat × List Nat))
    (c : CodePoint) : Text :=
  match sequences.lookup c.val with
  | some ns => ns.filterMap CodePoint.ofNat?
  | none => [(runs.findSome? (·.image? c)).getD c]

def upper (t : Text) : Text := t.flatMap (mapCase upperRuns upperSequences)

def meetsCased (t : Text) : Bool :=
  match t.dropWhile caseIgnorable.contains with
  | [] => false
  | c :: _ => cased.contains c

/-- The lower-case text of what follows `before`, which is given backwards. -/
def lowerAfter : (before : Text) → Text → Text
  | _, [] => []
  | before, c :: r =>
    (if c.val = 0x3A3 then
      if meetsCased before && !meetsCased r then [0x3C2] else [0x3C3]
    else mapCase lowerRuns lowerSequences c) ++ lowerAfter (c :: before) r

def lower (t : Text) : Text := lowerAfter [] t

end JsonTap.Unicode
