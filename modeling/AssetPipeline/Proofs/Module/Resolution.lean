/-
AssetPipeline/Proofs/Module/Resolution.lean

What a relative name stands for.

A relative name goes up from its anchor, one dotted part for every dot but the first, and down
again by what follows the dots.  Going up cuts the anchor at its last dot again and again; the
parts that are cut off in that way are as many as there are further dots, and have no dots.

A name is resolved twice: by the import system, which looks it up, and once more by whoever
wants to know which module that was.

Main statements: `resolve?_eq_some_iff` for the meaning of a relative name, and
`resolveName_of_importFrom` that both resolutions come to the same name whenever an import ends
with a missing module.
-/
import AssetPipeline.Proofs.Loader.Report

namespace AssetPipeline

namespace ModuleName

variable {anchor name absolute : String}

/-- Going up cuts off as many parts without dots. -/
theorem dropParts_eq_some_iff {n : Nat} {whole base : List Char} :
    dropParts n whole = some base ↔
      ∃ parts : List (List Char), parts.length = n ∧ (∀ part ∈ parts, '.' ∉ part) ∧
        whole = base ++ parts.flatMap ('.' :: ·) := by
  induction n generalizing whole with
  | zero =>
    constructor
    · rintro ⟨⟩
      exact ⟨[], rfl, by simp, by simp⟩
    · rintro ⟨parts, hlen, -, rfl⟩
      rw [List.length_eq_zero_iff.1 hlen]
      simp [dropParts]
  | succ n ih =>
    constructor
    · intro h
      obtain ⟨⟨before, after⟩, hcut, hrest⟩ := Option.bind_eq_some_iff.1 h
      obtain ⟨hwhole, hdot⟩ := Text.splitLast?_eq_some_iff.1 hcut
      obtain ⟨parts, hlen, hdots, hbefore⟩ := ih.1 hrest
      refine ⟨parts ++ [after], by simp [hlen], ?_, ?_⟩
      · intro part hmem
        rcases List.mem_append.1 hmem with hmem | hmem
        · exact hdots part hmem
        · rwa [List.mem_singleton.1 hmem]
      · have hbefore : before = base ++ parts.flatMap ('.' :: ·) := hbefore
        simp [hwhole, hbefore]
    · rintro ⟨parts, hlen, hdots, rfl⟩
      -- the last dot is the one in front of the last part
      obtain ⟨earlier, last, rfl⟩ : ∃ earlier last, parts = earlier ++ [last] := by
        refine ⟨_, _, (List.dropLast_concat_getLast ?_).symm⟩
        rintro rfl
        cases hlen
      have hcut : Text.splitLast? '.' (base ++ (earlier ++ [last]).flatMap ('.' :: ·)) =
          some (base ++ earlier.flatMap ('.' :: ·), last) := by
        rw [Text.splitLast?_eq_some_iff]
        exact ⟨by simp, hdots last (by simp)⟩
      rw [dropParts, hcut]
      refine ih.2 ⟨earlier, by simpa using hlen, ?_, rfl⟩
      intro part hmem
      exact hdots part (List.mem_append_left _ hmem)

/-- **What a relative name stands for**: the anchor without as many parts as there are dots but the
first, and behind that what follows the dots. -/
theorem resolve?_eq_some_iff :
    resolve? anchor name = some absolute ↔
      ∃ (base : List Char) (parts : List (List Char)), parts.length = level name - 1 ∧
        (∀ part ∈ parts, '.' ∉ part) ∧ anchor.toList = base ++ parts.flatMap ('.' :: ·) ∧
        absolute = String.ofList (join base (tail name)) := by
  rw [resolve?, Option.map_eq_some_iff]
  constructor
  · rintro ⟨base, hbase, rfl⟩
    obtain ⟨parts, hlen, hdots, hanchor⟩ := dropParts_eq_some_iff.1 hbase
    exact ⟨base, parts, hlen, hdots, hanchor, rfl⟩
  · rintro ⟨base, parts, hlen, hdots, hanchor, rfl⟩
    exact ⟨base, dropParts_eq_some_iff.2 ⟨parts, hlen, hdots, hanchor⟩, rfl⟩

end ModuleName

open ModuleName

variable {installed : Installed} {c after : ModuleCache} {anchor : Option String}
  {package name absolute : String} {why : ModuleMissing}

/-! ### Names with and without an anchor -/

theorem absoluteName_of_relative (hrel : isRelative name = true) (hne : package ≠ "") :
    absoluteName (some package) name =
      match resolve? package name with
      | some absolute => .ok absolute
      | none => .error .beyondAnchor := by
  unfold absoluteName
  rw [if_pos hrel]
  split
  · next h => cases h
  · next h =>
    cases h
    exact absurd rfl hne
  · next h =>
    cases h
    rfl

/-- For imports the empty text is no anchor. -/
theorem absoluteName_of_unanchored (hrel : isRelative name = true)
    (hanchor : anchor = none ∨ anchor = some "") :
    absoluteName anchor name = .error (.relativeImport name) := by
  unfold absoluteName
  rw [if_pos hrel]
  rcases hanchor with rfl | rfl <;> rfl

/-- A name that is not relative stands for itself, whatever the anchor. -/
theorem absoluteName_self (hrel : isRelative name = false) (hne : name ≠ "") :
    absoluteName anchor name = .ok name := by
  unfold absoluteName
  rw [if_neg (by simp [hrel]), if_neg hne]

/-- **Both resolutions of a name come to the same**, whenever its import ends with a missing
module. -/
theorem resolveName_of_importFrom
    (h : importFrom installed anchor name c = (.error (.moduleMissing why), after)) :
    ∃ absolute, absoluteName anchor name = .ok absolute ∧ resolveName anchor name = .ok absolute ∧
      importName installed absolute c = (.error (.moduleMissing why), after) := by
  rcases habs : absoluteName anchor name with fault | absolute
  · simp only [importFrom, habs] at h
    cases h
    exact absurd rfl ((absoluteName_error habs).1 why)
  · rw [importFrom_of_absolute habs] at h
    exact ⟨absolute, rfl, resolveName_of_absolute habs, h⟩

end AssetPipeline
