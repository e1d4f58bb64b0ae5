/-
AssetPipeline/Json.lean

Plain data: null, booleans, integers, floating-point numbers, text, arrays and
objects.

Objects keep the order in which their fields were written, since the order of
reported configuration faults depends on it.
-/
import AssetPipeline.Double

namespace AssetPipeline

/-- A plain value. -/
inductive Json where
  | null
  | bool (value : Bool)
  | int (value : Int)
  /-- A number with a fraction or an exponent. -/
  | double (value : Double)
  | str (value : String)
  | array (items : List Json)
  /-- Fields in the order written, each name at most once. -/
  | object (fields : List (String × Json))
  deriving Inhabited

namespace Json

/-! ### Equality -/

mutual
/-- Equality of plain values is decided by structure. -/
def decEq : (x y : Json) → Decidable (x = y)
  | .null, .null => isTrue rfl
  | .bool a, .bool b => decidable_of_iff (a = b) (by simp)
  | .int a, .int b => decidable_of_iff (a = b) (by simp)
  | .double a, .double b => decidable_of_iff (a = b) (by simp)
  | .str a, .str b => decidable_of_iff (a = b) (by simp)
  | .array xs, .array ys =>
    match decEqItems xs ys with
    | isTrue h => isTrue (by rw [h])
    | isFalse h => isFalse (by simpa using h)
  | .object xs, .object ys =>
    match decEqFields xs ys with
    | isTrue h => isTrue (by rw [h])
    | isFalse h => isFalse (by simpa using h)
  | .null, .bool _ | .null, .int _ | .null, .double _ | .null, .str _ | .null, .array _
  | .null, .object _ => isFalse nofun
  | .bool _, .null | .bool _, .int _ | .bool _, .double _ | .bool _, .str _ | .bool _, .array _
  | .bool _, .object _ => isFalse nofun
  | .int _, .null | .int _, .bool _ | .int _, .double _ | .int _, .str _ | .int _, .array _
  | .int _, .object _ => isFalse nofun
  | .double _, .null | .double _, .bool _ | .double _, .int _ | .double _, .str _
  | .double _, .array _ | .double _, .object _ => isFalse nofun
  | .str _, .null | .str _, .bool _ | .str _, .int _ | .str _, .double _ | .str _, .array _
  | .str _, .object _ => isFalse nofun
  | .array _, .null | .array _, .bool _ | .array _, .int _ | .array _, .double _
  | .array _, .str _ | .array _, .object _ => isFalse nofun
  | .object _, .null | .object _, .bool _ | .object _, .int _ | .object _, .double _
  | .object _, .str _ | .object _, .array _ => isFalse nofun
/-- Arrays are equal when their items are, in order. -/
def decEqItems : (xs ys : List Json) → Decidable (xs = ys)
  | [], [] => isTrue rfl
  | [], _ :: _ => isFalse nofun
  | _ :: _, [] => isFalse nofun
  | x :: xs, y :: ys =>
    match decEq x y, decEqItems xs ys with
    | isTrue h, isTrue h' => isTrue (by rw [h, h'])
    | isFalse h, _ => isFalse (by simp [h])
    | _, isFalse h => isFalse (by simp [h])
/-- Objects are equal when their fields are, in order. -/
def decEqFields : (xs ys : List (String × Json)) → Decidable (xs = ys)
  | [], [] => isTrue rfl
  | [], _ :: _ => isFalse nofun
  | _ :: _, [] => isFalse nofun
  | (k, x) :: xs, (l, y) :: ys =>
    if hk : k = l then
      match decEq x y, decEqFields xs ys with
      | isTrue h, isTrue h' => isTrue (by rw [hk, h, h'])
      | isFalse h, _ => isFalse (by simp [h])
      | _, isFalse h => isFalse (by simp [h])
    else isFalse (by simp [hk])
end

instance : DecidableEq Json := decEq

/-! ### Building -/

/-- The array of texts. -/
def strings (texts : List String) : Json := .array (texts.map .str)

/-- The text, or null where there is none. -/
def ofText? : Option String → Json
  | none => .null
  | some s => .str s

/-- The field named `key` of an object. -/
def field? (key : String) : Json → Option Json
  | .object fields => fields.lookup key
  | _ => none

end Json

end AssetPipeline
