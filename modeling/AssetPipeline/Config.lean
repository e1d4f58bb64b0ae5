/-
AssetPipeline/Config.lean

The settings of a dependency loader.

A configuration is read from plain data.  Its schema is closed: an object with at
most an object of install hints, all of them texts, and an anchor package, a text
or null.  Reading reports every violation of the schema, hints first, then the
anchor, then the unknown fields, each group in the order written.
-/
import AssetPipeline.Dict
import AssetPipeline.Json

namespace AssetPipeline

/-- Settings of a dependency loader. -/
structure Config where
  /-- What to install for a dependency, by dependency name. -/
  hints : Dict String String
  /-- The package that relative dependency names start from. -/
  anchor : Option String
  deriving DecidableEq

namespace Config

/-- The settings of a loader that is given none. -/
def default : Config := ⟨Dict.empty, none⟩

instance : Inhabited Config := ⟨default⟩

/-! ### Violations -/

/-- One way in which plain data departs from the schema, or an attempt to change a configuration. -/
inductive Violation where
  | notAnObject
  | hintsNotAnObject
  | hintNotText (name : String)
  | anchorNotText
  | unknownField (name : String)
  | frozen (field : String)
  deriving DecidableEq

namespace Violation

/-- The kind of violation. -/
def kind : Violation → String
  | .notAnObject => "model_type"
  | .hintsNotAnObject => "dict_type"
  | .hintNotText _ | .anchorNotText => "string_type"
  | .unknownField _ => "extra_forbidden"
  | .frozen _ => "frozen_instance"

/-- Where the violation is: the fields that lead to it. -/
def location : Violation → List String
  | .notAnObject => []
  | .hintsNotAnObject => ["install_hints"]
  | .hintNotText name => ["install_hints", name]
  | .anchorNotText => ["package"]
  | .unknownField name | .frozen name => [name]

/-- What is wrong there. -/
def message : Violation → String
  | .notAnObject => "Input should be a valid dictionary or instance of LoaderConfig"
  | .hintsNotAnObject => "Input should be a valid dictionary"
  | .hintNotText _ | .anchorNotText => "Input should be a valid string"
  | .unknownField _ => "Extra inputs are not permitted"
  | .frozen _ => "Instance is frozen"

/-- The violation as plain data. -/
def toJson (v : Violation) : Json :=
  .array [.str v.kind, Json.strings v.location, .str v.message]

end Violation

/-! ### Reading -/

/-- The hint in a field, if its value is a text. -/
def hint? : String × Json → Option (String × String)
  | (name, .str hint) => some (name, hint)
  | _ => none

/-- The violations among the install hints. -/
def hintViolations : Json → List Violation
  | .object fields =>
    (fields.filter fun field => (hint? field).isNone).map fun field => .hintNotText field.1
  | _ => [.hintsNotAnObject]

/-- The hints that are texts. -/
def readHints : Json → Dict String String
  | .object fields => Dict.ofList (fields.filterMap hint?)
  | _ => Dict.empty

/-- The violations in the anchor. -/
def anchorViolations : Json → List Violation
  | .str _ | .null => []
  | _ => [.anchorNotText]

/-- The anchor, if it is a text. -/
def readAnchor : Json → Option String
  | .str package => some package
  | _ => none

/-- Whether the schema has a field of this name. -/
def isKnownField (name : String) : Bool := name == "install_hints" || name == "package"

/-- All violations of the schema. -/
def violations : Json → List Violation
  | .object fields =>
    ((fields.lookup "install_hints").map hintViolations).getD [] ++
      ((fields.lookup "package").map anchorViolations).getD [] ++
        (fields.filter fun field => !isKnownField field.1).map fun field => .unknownField field.1
  | _ => [.notAnObject]

/-- The configuration that the known fields describe; what is absent has its default. -/
def ofFields (fields : List (String × Json)) : Config where
  hints := ((fields.lookup "install_hints").map readHints).getD Dict.empty
  anchor := (fields.lookup "package").bind readAnchor

/-- Read a configuration, or report every violation of the schema. -/
def read (value : Json) : Except (List Violation) Config :=
  match value, violations value with
  | .object fields, [] => .ok (ofFields fields)
  | _, found => .error found

/-! ### Using -/

/-- The configuration as plain data. -/
def toJson (c : Config) : Json :=
  .object [("install_hints", .object (c.hints.entries.map fun e => (e.1, .str e.2))),
    ("package", Json.ofText? c.anchor)]

/-- The top-level package of a dependency: its name up to the first dot. -/
def topLevel (name : String) : String := String.ofList (name.toList.takeWhile (· ≠ '.'))

/-- The install hint for a dependency, or else for its top-level package. -/
def hintFor (c : Config) (name : String) : Option String :=
  match c.hints.get? name with
  | some hint => some hint
  | none => c.hints.get? (topLevel name)

end Config

end AssetPipeline
