/-
AssetPipeline/Text/Cut.lean

The beginning of a text that takes up a limited number of bytes in UTF-8.

A character that the limit would cut in two is replaced by the mark for what cannot be
read.
-/

namespace AssetPipeline.Text

/-- The mark that stands for bytes that cannot be read. -/
def unreadable : Char := '\ufffd'

/-- The beginning of `s` that takes up at most `limit` bytes. -/
def cutBytes : (limit : Nat) → List Char → List Char
  | _, [] => []
  | limit, c :: rest =>
    if c.utf8Size ≤ limit then c :: cutBytes (limit - c.utf8Size) rest
    else if limit = 0 then [] else [unreadable]

/-- The beginning of a text that takes up at most `limit` bytes. -/
def firstBytes (limit : Nat) (s : String) : String := String.ofList (cutBytes limit s.toList)

end AssetPipeline.Text
