/-
AssetPipeline/Proofs/Path.lean

Where a path ends.

A path ends in a name if the name stands alone or behind a slash, and nothing follows it but
slashes, each by itself or with a single dot behind it (`EndsIn`).  Reading a path cuts it at
every slash and leaves the empty stretches and the single dots out; the last part that remains is
the name in which the path ends.  The cut at the last slash carries the proof: what stands behind
it is the name, or it does not count and the path ends as the text before that slash does.

Main statements: `name?_parse_eq_some_iff` for the last part of a path, `suffix_of_hasSuffix` and
`suffix_eq_empty_iff` for its suffix.
-/
import AssetPipeline.Path
import Mathlib.Logic.Basic

namespace AssetPipeline.Path

variable {name s ext : List Char} {location : String}

/-! ### The parts of a path -/

/-- The stretches between slashes that count. -/
def partsOf (s : List Char) : List (List Char) := (s.splitOn '/').filter isPart

/-- The text up to a slash has its own parts, and so has the text behind it. -/
theorem partsOf_append_slash (before after : List Char) :
    partsOf (before ++ '/' :: after) = partsOf before ++ partsOf after := by
  rw [partsOf, List.splitOn_append_cons_self, List.filter_append]
  rfl

/-- A stretch without slashes is a part or nothing. -/
theorem partsOf_of_no_slash (h : '/' ∉ s) : partsOf s = if isPart s then [s] else [] := by
  rw [partsOf, List.splitOn_eq_singleton h, List.filter_cons, List.filter_nil]

/-! ### The last part -/

/-- The path ends in this name. -/
inductive EndsIn (name : List Char) : List Char → Prop
  | alone : EndsIn name name
  | inside (directory : List Char) : EndsIn name (directory ++ '/' :: name)
  | slash {s : List Char} : EndsIn name s → EndsIn name (s ++ ['/'])
  | dot {s : List Char} : EndsIn name s → EndsIn name (s ++ ['/', '.'])

/-- What may be the last part of a path. -/
structure IsName (name : List Char) : Prop where
  part : isPart name = true
  slashless : '/' ∉ name

/-- A text without slashes is the name in which it ends. -/
theorem EndsIn.eq_of_slashless (h : EndsIn name s) (hslash : '/' ∉ s) : s = name := by
  cases h with
  | alone => rfl
  | inside directory => exact absurd (by simp) hslash
  | slash _ => exact absurd (by simp) hslash
  | dot _ => exact absurd (by simp) hslash

theorem getLast?_partsOf_of_endsIn (hname : IsName name) (h : EndsIn name s) :
    (partsOf s).getLast? = some name := by
  have hself : partsOf name = [name] := by
    rw [partsOf_of_no_slash hname.slashless, if_pos hname.part]
  induction h with
  | alone => rw [hself, List.getLast?_singleton]
  | inside directory => rw [partsOf_append_slash, hself, List.getLast?_concat]
  | slash _ ih =>
    have hnone : partsOf [] = [] := rfl
    rw [partsOf_append_slash, hnone, List.append_nil, ih]
  | dot _ ih =>
    have hnone : partsOf ['.'] = [] := rfl
    rw [partsOf_append_slash, hnone, List.append_nil, ih]

theorem endsIn_of_getLast?_partsOf {s : List Char} (h : (partsOf s).getLast? = some name) :
    IsName name ∧ EndsIn name s := by
  rcases hcut : Text.splitLast? '/' s with _ | ⟨before, after⟩
  · -- there is no slash, so the name is all there is
    have hslash := Text.splitLast?_eq_none_iff.1 hcut
    rw [partsOf_of_no_slash hslash] at h
    split at h
    · next hpart =>
      cases h
      exact ⟨⟨hpart, hslash⟩, .alone⟩
    · cases h
  · obtain ⟨hs, hslash⟩ := Text.splitLast?_eq_some_iff.1 hcut
    rw [hs, partsOf_append_slash, partsOf_of_no_slash hslash] at h
    rw [hs]
    split at h
    · next hpart =>
      rw [List.getLast?_concat] at h
      cases h
      exact ⟨⟨hpart, hslash⟩, .inside before⟩
    · next hpart =>
      -- what stands behind the last slash does not count
      rw [List.append_nil] at h
      obtain ⟨hname, hends⟩ := endsIn_of_getLast?_partsOf h
      refine ⟨hname, ?_⟩
      rw [isPart_iff, not_and_or, not_not, not_not] at hpart
      rcases hpart with rfl | rfl
      · exact hends.slash
      · exact hends.dot
termination_by s.length
decreasing_by exact Text.length_lt_of_splitLast? hcut

/-- **The last part of a path is the name in which it ends.** -/
theorem name?_parse_eq_some_iff :
    (parse location).name? = some name ↔ IsName name ∧ EndsIn name location.toList := by
  constructor
  · exact fun h => endsIn_of_getLast?_partsOf h
  · rintro ⟨hname, hends⟩
    exact getLast?_partsOf_of_endsIn hname hends

/-! ### The suffix -/

/-- The path ends in a name with a dot before `ext`, which has no dot, and something before that. -/
structure HasSuffix (location : String) (ext : List Char) : Prop where
  nonempty : ext ≠ []
  dotless : '.' ∉ ext
  ends : ∃ stem, stem ≠ [] ∧ '/' ∉ stem ++ '.' :: ext ∧ EndsIn (stem ++ '.' :: ext) location.toList

/-- A stem and an extension are a name. -/
theorem isName_of_stem {stem : List Char} (hext : ext ≠ []) (hslash : '/' ∉ stem ++ '.' :: ext) :
    IsName (stem ++ '.' :: ext) := by
  refine ⟨isPart_iff.2 ⟨by simp, ?_⟩, hslash⟩
  intro h
  have hlen := congrArg List.length h
  have hpos : 0 < ext.length := List.length_pos_iff.2 hext
  simp only [List.length_append, List.length_cons, List.length_nil] at hlen
  omega

theorem suffix_of_hasSuffix (h : HasSuffix location ext) :
    (parse location).suffix = String.ofList ('.' :: ext) := by
  obtain ⟨stem, hstem, hslash, hends⟩ := h.ends
  have hname := name?_parse_eq_some_iff.2 ⟨isName_of_stem h.nonempty hslash, hends⟩
  rw [suffix, hname]
  exact congrArg String.ofList (nameSuffix_append hstem h.nonempty h.dotless)

/-- A suffix that is not empty is that of the name in which the path ends. -/
theorem exists_hasSuffix (h : (parse location).suffix ≠ "") : ∃ ext, HasSuffix location ext := by
  rw [suffix] at h
  split at h
  · next name hname =>
    obtain ⟨hpart, hends⟩ := name?_parse_eq_some_iff.1 hname
    rw [nameSuffix] at h
    split at h
    · next stem ext hcut =>
      obtain ⟨rfl, hdot⟩ := Text.splitLast?_eq_some_iff.1 hcut
      split at h
      · exact absurd rfl h
      · next hsides =>
        rw [not_or] at hsides
        exact ⟨ext, hsides.2, hdot, stem, hsides.1, hpart.slashless, hends⟩
    · exact absurd rfl h
  · exact absurd rfl h

/-- A name that is a dot and an extension has no suffix. -/
theorem not_hasSuffix_of_leading_dot (hloc : location.toList = '.' :: ext) (hdot : '.' ∉ ext)
    (hslash : '/' ∉ ext) : ¬ ∃ ext', HasSuffix location ext' := by
  rintro ⟨ext', hsuffix⟩
  obtain ⟨stem, hstem, -, hends⟩ := hsuffix.ends
  rw [hloc] at hends
  have hname : '.' :: ext = stem ++ '.' :: ext' := hends.eq_of_slashless (by simpa using hslash)
  -- the first dot belongs to the stem, and then the second one to the extension
  cases stem with
  | nil => exact hstem rfl
  | cons c stem =>
    rw [List.cons_append, List.cons.injEq] at hname
    rw [hname.2] at hdot
    exact hdot (by simp)

/-- **A path has no suffix exactly if it does not end in a name with an extension.** -/
theorem suffix_eq_empty_iff :
    (parse location).suffix = "" ↔ ¬ ∃ ext, HasSuffix location ext := by
  constructor
  · rintro h ⟨ext, hext⟩
    rw [suffix_of_hasSuffix hext] at h
    have hlist := congrArg String.toList h
    simp at hlist
  · intro h
    by_cases hne : (parse location).suffix = ""
    · exact hne
    · exact absurd (exists_hasSuffix hne) h

end AssetPipeline.Path
