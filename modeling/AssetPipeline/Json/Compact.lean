/-
AssetPipeline/Json/Compact.lean

Plain data as one line of JSON: fields sorted by name, no blanks, and every
character that JSON does not force to be escaped as it is.
-/
import AssetPipeline.Json
import AssetPipeline.Text.Hex
import AssetPipeline.Text.Shortest

namespace AssetPipeline.Json

/-! ### Text -/

/-- A character as it stands in a JSON text. -/
def escape (c : Char) : List Char :=
  if c = '"' ∨ c = '\\' then ['\\', c]
  else if c = '\n' then ['\\', 'n']
  else if c = '\r' then ['\\', 'r']
  else if c = '\t' then ['\\', 't']
  else if c.toNat = 8 then ['\\', 'b']
  else if c.toNat = 12 then ['\\', 'f']
  else if c.toNat < 32 then '\\' :: 'u' :: Text.hexDigits 4 c.toNat
  else [c]

/-- A text between double quotes. -/
def quote (s : String) : String := String.ofList ('"' :: s.toList.flatMap escape ++ ['"'])

/-- Fields by rising name. -/
def sortFields (fields : List (String × String)) : List (String × String) :=
  fields.mergeSort fun a b => decide (a.1 ≤ b.1)

/-- A field in its written form. -/
def writeField (field : String × String) : String := quote field.1 ++ ":" ++ field.2

/-! ### Values -/

/-- A floating-point number; what is none, and what is infinite, goes by its name. -/
def writeDouble (x : Double) : String :=
  if x.isNaN then "NaN"
  else if x.isFinite then Text.Shortest.text x
  else if x.isNegative then "-Infinity" else "Infinity"

mutual
/-- The value in one line. -/
def compact : Json → String
  | .null => "null"
  | .bool true => "true"
  | .bool false => "false"
  | .int n => toString n
  | .double x => writeDouble x
  | .str s => quote s
  | .array items => "[" ++ ",".intercalate (compactItems items) ++ "]"
  | .object fields =>
    "\x7b" ++ ",".intercalate ((sortFields (compactFields fields)).map writeField) ++ "\x7d"
/-- The items of an array, each in one line. -/
def compactItems : List Json → List String
  | [] => []
  | x :: rest => compact x :: compactItems rest
/-- The fields of an object, each value in one line. -/
def compactFields : List (String × Json) → List (String × String)
  | [] => []
  | (key, x) :: rest => (key, compact x) :: compactFields rest
end

/-- The value in one line between brackets: the form in which an engine shows what it got. -/
def bracketed (value : Json) : String := "[" ++ value.compact ++ "]"

end AssetPipeline.Json
