/-
AssetPipeline/Path.lean

Paths in normal form, and the suffix by which an engine is chosen.

A path is its leading slashes and its parts; empty parts and parts that are a
single dot do not count.  The suffix is what the last part has from its last dot
on, provided that something stands on both sides of the dot.
-/
import AssetPipeline.Text.Split

namespace AssetPipeline

/-- A path in normal form. -/
structure Path where
  /-- The leading slashes: none, one, or exactly two. -/
  root : String
  /-- The parts between slashes, none of them empty or a single dot. -/
  parts : List (List Char)
  deriving DecidableEq

namespace Path

/-- Whether a stretch between slashes counts as a part. -/
def isPart (s : List Char) : Bool := decide (s ≠ [] ∧ s ≠ ['.'])

/-- The slashes that a path keeps of its leading `n`: two stay two, more are one. -/
def rootOf (n : Nat) : String :=
  if n = 0 then "" else if n = 2 then "//" else "/"

/-- Read a path. -/
def parse (s : String) : Path where
  root := rootOf (s.toList.takeWhile (· = '/')).length
  parts := (s.toList.splitOn '/').filter isPart

/-- The path as text; without slashes and parts it is the single dot. -/
def text (p : Path) : String :=
  let s := p.root ++ "/".intercalate (p.parts.map String.ofList)
  if s = "" then "." else s

/-- The last part. -/
def name? (p : Path) : Option (List Char) := p.parts.getLast?

/-- What a name has from its last dot on, if something stands on both sides of the dot. -/
def nameSuffix (name : List Char) : List Char :=
  match Text.splitLast? '.' name with
  | some (stem, ext) => if stem = [] ∨ ext = [] then [] else '.' :: ext
  | none => []

/-- The suffix of the last part; empty when there is no part or no suffix. -/
def suffix (p : Path) : String :=
  match p.name? with
  | some name => String.ofList (nameSuffix name)
  | none => ""

/-! ### Small facts -/

theorem isPart_iff {s : List Char} : isPart s = true ↔ s ≠ [] ∧ s ≠ ['.'] := by
  simp [isPart]

theorem nameSuffix_append {stem ext : List Char} (hs : stem ≠ []) (he : ext ≠ [])
    (hdot : '.' ∉ ext) : nameSuffix (stem ++ '.' :: ext) = '.' :: ext := by
  simp [nameSuffix, Text.splitLast?_append hdot, hs, he]

end Path

end AssetPipeline
