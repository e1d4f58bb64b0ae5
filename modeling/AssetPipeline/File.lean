/-
AssetPipeline/File.lean

Where a payload came from.

A file is given as text, as a path in normal form, or as a path-like object that
is known only by its location.  All three have a location; they differ in how
they are shown, and some messages show the object where others give the
location.
-/
import AssetPipeline.Json
import AssetPipeline.Path
import AssetPipeline.Text.Quoted

namespace AssetPipeline

/-- The source of a payload. -/
inductive File where
  | text (location : String)
  | path (path : Path)
  /-- An object with a location and nothing else. -/
  | pathLike (location : String)
  deriving DecidableEq

namespace File

/-- The location in the file system. -/
def location : File → String
  | .text s => s
  | .path p => p.text
  | .pathLike s => s

/-- The file as it stands inside running text. -/
def display : File → String
  | .text s => s
  | .path p => p.text
  | .pathLike s => "RawPath(" ++ Text.quoted s ++ ")"

/-- The file as an object of its own kind. -/
def inspect : File → String
  | .text s => Text.quoted s
  | .path p => "PosixPath(" ++ Text.quoted p.text ++ ")"
  | .pathLike s => "RawPath(" ++ Text.quoted s ++ ")"

/-- The file as plain data. -/
def toJson : File → Json
  | .text s => .str s
  | .path p => .object [("path", .str p.text)]
  | .pathLike s => .object [("raw", .str s)]

/-! ### Files that may be absent -/

/-- A file that may be absent, inside running text. -/
def displayOptional : Option File → String
  | some f => f.display
  | none => "None"

/-- A file that may be absent, as an object of its own kind. -/
def inspectOptional : Option File → String
  | some f => f.inspect
  | none => "None"

/-- A file that may be absent, as plain data. -/
def toJsonOptional : Option File → Json
  | some f => f.toJson
  | none => .null

/-! ### Small facts -/

@[simp] theorem location_text (s : String) : (text s).location = s := rfl

@[simp] theorem location_pathLike (s : String) : (pathLike s).location = s := rfl

end File

end AssetPipeline
