import JsonTap.Text.Basic

/-!
# Sets of code points

A property of code points is a list of ranges, each with its first and its last member.
-/

namespace JsonTap.Unicode

/-- Ranges of code points, each with its first and its last member. -/
abbrev Ranges := List (Nat × Nat)

def Ranges.contains (rs : Ranges) (c : CodePoint) : Bool :=
  rs.any (fun r => r.1 ≤ c.val && c.val ≤ r.2)

end JsonTap.Unicode
