/-
AssetPipeline/Extension.lean

File extensions in the one spelling under which engines claim them.
-/
import AssetPipeline.Text.LowerCase

namespace AssetPipeline.Extension

/-- Put a dot in front unless there is one. -/
def dotted (s : List Char) : List Char := if s.head? = some '.' then s else '.' :: s

/-- An extension in lower case with a leading dot. -/
def normalize (ext : String) : String :=
  String.ofList (dotted (Text.lowerFrom false ext.toList))

/-- A dotted text begins with a dot. -/
@[simp] theorem head?_dotted (s : List Char) : (dotted s).head? = some '.' := by
  unfold dotted
  split
  · assumption
  · rfl

@[simp] theorem dotted_dotted (s : List Char) : dotted (dotted s) = dotted s :=
  if_pos (head?_dotted s)

end AssetPipeline.Extension
