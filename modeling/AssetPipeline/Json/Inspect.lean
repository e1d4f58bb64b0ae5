/-
AssetPipeline/Json/Inspect.lean

Plain data as it is shown inside messages: `inspect` quotes texts at every
depth, `display` leaves a bare text as it is, and `kindName` names the kind only.
-/
import AssetPipeline.Json
import AssetPipeline.Text.Quoted
import AssetPipeline.Text.Shortest

namespace AssetPipeline.Json

mutual
/-- The value with texts in quotes. -/
def inspect : Json → String
  | .null => "None"
  | .bool true => "True"
  | .bool false => "False"
  | .int n => toString n
  | .double x => Text.Shortest.text x
  | .str s => Text.quoted s
  | .array items => "[" ++ ", ".intercalate (inspectItems items) ++ "]"
  | .object fields => "\x7b" ++ ", ".intercalate (inspectFields fields) ++ "\x7d"
/-- The items of an array, each with texts in quotes. -/
def inspectItems : List Json → List String
  | [] => []
  | x :: rest => inspect x :: inspectItems rest
/-- The fields of an object, names and values with texts in quotes. -/
def inspectFields : List (String × Json) → List String
  | [] => []
  | (key, x) :: rest => (Text.quoted key ++ ": " ++ inspect x) :: inspectFields rest
end

/-- The value as text: a text as it is, everything else as `inspect` shows it. -/
def display : Json → String
  | .str s => s
  | value => value.inspect

/-- The name of the kind of value. -/
def kindName : Json → String
  | .null => "NoneType"
  | .bool _ => "bool"
  | .int _ => "int"
  | .double _ => "float"
  | .str _ => "str"
  | .array _ => "list"
  | .object _ => "dict"

/-- Several values side by side, between round brackets. -/
def inspectTuple (values : List Json) : String :=
  "(" ++ ", ".intercalate (inspectItems values) ++ ")"

end AssetPipeline.Json
