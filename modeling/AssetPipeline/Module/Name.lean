/-
AssetPipeline/Module/Name.lean

Dotted module names.

A name is absolute, or relative when it begins with dots.  A relative name is
resolved against an anchor package: its first dot stands for the anchor, each
further dot goes up one part, and what follows the dots is put behind.

Main statements: `length_parent_lt` says that a parent has a shorter name, and
`resolve?_eq_none_iff` that a relative name has no meaning exactly when it goes
up more parts than the anchor can give.
-/
import AssetPipeline.Text.Split

namespace AssetPipeline.ModuleName

/-! ### Parents -/

/-- The name up to its last dot, unless nothing stands there. -/
def parent? (name : String) : Option String :=
  match Text.splitLast? '.' name.toList with
  | some ([], _) | none => none
  | some (before, _) => some (String.ofList before)

theorem length_parent_lt {name parent : String} (h : parent? name = some parent) :
    parent.length < name.length := by
  unfold parent? at h
  split at h
  · cases h
  · cases h
  · next before _ hs =>
    cases h
    have := Text.length_lt_of_splitLast? hs
    simpa [← String.length_toList] using this

/-- The packages around a module, innermost first. -/
def ancestors (name : String) : List String :=
  match _h : parent? name with
  | none => []
  | some parent => parent :: ancestors parent
termination_by name.length
decreasing_by exact length_parent_lt _h

theorem ancestors_of_parent {name parent : String} (h : parent? name = some parent) :
    ancestors name = parent :: ancestors parent := by
  rw [ancestors]
  split <;> simp_all

theorem ancestors_of_root {name : String} (h : parent? name = none) : ancestors name = [] := by
  rw [ancestors]
  split <;> simp_all

/-- Whether `outer` is the module `inner` or one of the packages around it. -/
def encloses (outer inner : String) : Bool :=
  inner == outer || (outer.toList ++ ['.']).isPrefixOf inner.toList

/-! ### Relative names -/

/-- Whether the name begins with a dot. -/
def isRelative (name : String) : Bool := name.toList.head? == some '.'

/-- The number of leading dots. -/
def level (name : String) : Nat := (name.toList.takeWhile (· = '.')).length

/-- What follows the leading dots. -/
def tail (name : String) : List Char := name.toList.dropWhile (· = '.')

/-- The name without its last `n` dotted parts, if it has more parts than that. -/
def dropParts : Nat → List Char → Option (List Char)
  | 0, name => some name
  | n + 1, name => (Text.splitLast? '.' name).bind fun cut => dropParts n cut.1

/-- Put a tail behind a base, with a dot between them; an empty tail adds nothing. -/
def join (base tail : List Char) : List Char :=
  if tail = [] then base else base ++ '.' :: tail

/-- The absolute name that a relative one stands for in the package `anchor`. -/
def resolve? (anchor name : String) : Option String :=
  (dropParts (level name - 1) anchor.toList).map fun base => String.ofList (join base (tail name))

theorem dropParts_eq_none_iff {n : Nat} {name : List Char} :
    dropParts n name = none ↔ name.count '.' < n := by
  induction n generalizing name with
  | zero => simp [dropParts]
  | succ n ih =>
    rcases h : Text.splitLast? '.' name with _ | ⟨before, after⟩
    · have := List.count_eq_zero.2 (Text.splitLast?_eq_none_iff.1 h)
      simp [dropParts, h, this]
    · obtain ⟨rfl, hdot⟩ := Text.splitLast?_eq_some_iff.1 h
      have hc : after.count '.' = 0 := List.count_eq_zero.2 hdot
      simp [dropParts, h, ih, hc]

theorem resolve?_eq_none_iff {anchor name : String} :
    resolve? anchor name = none ↔ anchor.toList.count '.' < level name - 1 := by
  rw [resolve?, Option.map_eq_none_iff, dropParts_eq_none_iff]

end AssetPipeline.ModuleName
