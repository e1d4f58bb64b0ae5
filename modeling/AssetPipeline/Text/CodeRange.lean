/-
AssetPipeline/Text/CodeRange.lean

Sets of characters given by rising ranges of code points, as the tables of
character properties are written.
-/

namespace AssetPipeline.Text

/-- The code points from the first number to the second, both included. -/
abbrev CodeRange := Nat × Nat

namespace CodeRange

/-- Whether `n` lies in one of the ranges, which are in rising order. -/
def covers : List CodeRange → Nat → Bool
  | [], _ => false
  | (lo, hi) :: rest, n => if n < lo then false else if n ≤ hi then true else covers rest n

end CodeRange

end AssetPipeline.Text
