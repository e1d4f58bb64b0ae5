/-
AssetPipeline/Json/Equality.lean

Equality of plain data by value.

Numbers of different kinds are equal when their values are, and a truth value counts
as zero or one.  Arrays are equal item by item, objects field by field in whatever
order the fields were written.
-/
import AssetPipeline.Json

namespace AssetPipeline.Json

/-! ### Numbers -/

/-- The value as an integer; a truth value counts as zero or one. -/
def integer? : Json → Option Int
  | .bool b => some b.toInt
  | .int n => some n
  | _ => none

/-- Whether two values are numbers of the same value. -/
def equalNumbers : Json → Json → Bool
  | .double x, .double y => x.equal y
  | .double x, other | other, .double x =>
    match other.integer? with
    | some n => x.equalsInt n
    | none => false
  | a, b =>
    match a.integer?, b.integer? with
    | some m, some n => m == n
    | _, _ => false

/-! ### Values -/

mutual
/-- Whether two values are equal. -/
def equals : Json → Json → Bool
  | .null, .null => true
  | .str a, .str b => a == b
  | .array xs, .array ys => equalItems xs ys
  | .object xs, .object ys => xs.length == ys.length && equalFields xs ys
  | a, b => equalNumbers a b
/-- Whether two arrays have equal items. -/
def equalItems : List Json → List Json → Bool
  | [], [] => true
  | x :: xs, y :: ys => equals x y && equalItems xs ys
  | _, _ => false
/-- Whether an object has every one of some fields, with an equal value. -/
def equalFields : List (String × Json) → List (String × Json) → Bool
  | [], _ => true
  | (key, x) :: rest, ys =>
    (match ys.lookup key with
      | some y => equals x y
      | none => false) && equalFields rest ys
end

end AssetPipeline.Json
