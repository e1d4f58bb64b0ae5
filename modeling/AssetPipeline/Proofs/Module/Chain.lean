/-
AssetPipeline/Proofs/Module/Chain.lean

A module and the packages around it.

The chain of a name is the name itself and its ancestors, innermost first.  The
loader does not walk along the chain to see whether a missing module is one of its
members: it looks whether the name of the missing module, with a dot behind it, is
a beginning of the name that was asked for.

Main statement: `encloses_iff_mem_chain` says that both are the same for every name
that does not begin with a dot.
-/
import AssetPipeline.Module.Name

namespace AssetPipeline.ModuleName

/-- A name and the packages around it, innermost first. -/
def chain (name : String) : List String := name :: ancestors name

/-! ### Parents and beginnings -/

theorem toList_eq_of_parent {name parent : String} (h : parent? name = some parent) :
    ∃ after, name.toList = parent.toList ++ '.' :: after ∧ '.' ∉ after := by
  unfold parent? at h
  rcases hs : Text.splitLast? '.' name.toList with _ | ⟨before, after⟩
  · rw [hs] at h
    cases h
  · rw [hs] at h
    obtain ⟨hname, hdot⟩ := Text.splitLast?_eq_some_iff.1 hs
    cases before with
    | nil => cases h
    | cons c rest =>
      cases h
      exact ⟨after, by rw [hname, String.toList_ofList], hdot⟩

theorem not_mem_of_root {name : String} (hrel : isRelative name = false)
    (h : parent? name = none) : '.' ∉ name.toList := by
  unfold parent? at h
  rcases hs : Text.splitLast? '.' name.toList with _ | ⟨before, after⟩
  · exact Text.splitLast?_eq_none_iff.1 hs
  · rw [hs] at h
    obtain ⟨hname, -⟩ := Text.splitLast?_eq_some_iff.1 hs
    cases before with
    | nil => simp [isRelative, hname] at hrel
    | cons c rest => cases h

theorem isRelative_parent {name parent : String} (hrel : isRelative name = false)
    (h : parent? name = some parent) : isRelative parent = false := by
  obtain ⟨after, hname, -⟩ := toList_eq_of_parent h
  cases hp : parent.toList with
  | nil => simp [isRelative, hp]
  | cons c rest => simpa [isRelative, hname, hp] using hrel

theorem parent_of_ancestors {name parent : String} {around : List String}
    (h : ancestors name = parent :: around) :
    parent? name = some parent ∧ ancestors parent = around := by
  rcases hp : parent? name with _ | parent'
  · rw [ancestors_of_root hp] at h
    cases h
  · rw [ancestors_of_parent hp] at h
    cases h
    exact ⟨rfl, rfl⟩

theorem parent_eq_none_of_ancestors {name : String} (h : ancestors name = []) :
    parent? name = none := by
  rcases hp : parent? name with _ | parent
  · rfl
  · rw [ancestors_of_parent hp] at h
    cases h

/-! ### The chain by beginnings -/

theorem encloses_iff {outer inner : String} :
    encloses outer inner = true ↔
      inner = outer ∨ outer.toList ++ ['.'] <+: inner.toList := by
  simp [encloses]

/-- What lies around a module, other than itself, lies around its parent. -/
theorem encloses_parent_iff {outer inner parent : String} (h : parent? inner = some parent) :
    outer.toList ++ ['.'] <+: inner.toList ↔ encloses outer parent = true := by
  obtain ⟨after, hinner, hdot⟩ := toList_eq_of_parent h
  rw [encloses_iff, hinner]
  constructor
  · intro hp
    have hsplit : parent.toList ++ '.' :: after = (parent.toList ++ ['.']) ++ after := by simp
    rw [hsplit] at hp
    by_cases hlen : (outer.toList ++ ['.']).length ≤ (parent.toList ++ ['.']).length
    · -- the dot behind `outer` stands before the last dot or is that dot
      have hpre := List.prefix_of_prefix_length_le hp (List.prefix_append _ _) hlen
      rcases List.prefix_concat_iff.1 hpre with heq | hlt
      · left
        exact String.toList_inj.1 (List.append_cancel_right heq).symm
      · exact Or.inr hlt
    · -- otherwise it stands in `after`, which has no dot
      exfalso
      obtain ⟨rest, hrest⟩ := hp
      have hlen' : (parent.toList ++ ['.']).length ≤ outer.toList.length := by
        simp only [List.length_append, List.length_singleton] at hlen ⊢
        omega
      rw [List.append_assoc] at hrest
      obtain ⟨middle, hmiddle⟩ := List.prefix_of_prefix_length_le
        (List.prefix_append _ _) (hrest ▸ List.prefix_append _ _) hlen'
      rw [← hmiddle, List.append_assoc, List.append_cancel_left_eq] at hrest
      exact hdot (hrest ▸ by simp)
  · rintro (heq | hp)
    · rw [heq]
      exact ⟨after, by simp⟩
    · exact hp.trans (List.prefix_append _ _)

/-- **The beginnings of a name at its dots are its chain.**  A name with a dot in front has
one beginning more, the empty one, which is no member. -/
theorem encloses_iff_mem_chain {outer inner : String} (hrel : isRelative inner = false) :
    encloses outer inner = true ↔ outer ∈ chain inner := by
  rcases h : parent? inner with _ | parent
  · -- a root has no dot at all, so the name itself is its only beginning
    have hdot := not_mem_of_root hrel h
    rw [encloses_iff, chain, ancestors_of_root h, List.mem_singleton]
    constructor
    · rintro (heq | hp)
      · exact heq.symm
      · exact absurd (hp.subset (by simp)) hdot
    · intro heq
      exact Or.inl heq.symm
  · have ih : encloses outer parent = true ↔ outer ∈ chain parent :=
      encloses_iff_mem_chain (isRelative_parent hrel h)
    rw [encloses_iff, encloses_parent_iff h, ih, chain, chain, ancestors_of_parent h,
      List.mem_cons (b := inner), eq_comm]
termination_by inner.length
decreasing_by exact length_parent_lt h

end AssetPipeline.ModuleName
