/-
AssetPipeline/Proofs/Loader/Refusal.lean

Which names a loader refuses before anything is imported.

An empty name stands for nothing, and a relative one needs an anchor to start from.  A loader sees
to both itself, and says for which file the name was required.  It takes any text for an anchor,
though, while for imports the empty text is none: a relative name then gets past the loader, and
is refused in words that do not say for which file.  A name that goes up beyond its anchor is
refused in this way as well.

Main statements: `exists_refused_iff`, by which the names that are refused are those without a
meaning, and `acquire_of_refused`, by which no cache changes then.
-/
import AssetPipeline.Proofs.Module.Resolution

namespace AssetPipeline

open ModuleName

/-- The message says for which file. -/
def Fault.NamesFile (fault : Fault) (file : Option File) : Prop :=
  ∃ before after, fault.message = before ++ "file '" ++ File.displayOptional file ++ "'" ++ after

namespace Loader

variable {l : Loader} {installed : Installed} {c : ModuleCache} {name : String}
  {file : Option File} {fault : Fault}

/-- The loader refuses the name with this fault. -/
inductive Refused (l : Loader) (file : Option File) : String → Fault → Prop
  | empty : Refused l file "" (.emptyDependency file)
  | unanchored {name : String} : isRelative name = true → l.config.anchor = none →
      Refused l file name (.unanchoredDependency name file)
  /-- The empty text is an anchor for the loader, but none for imports. -/
  | hollow {name : String} : isRelative name = true → l.config.anchor = some "" →
      Refused l file name (.relativeImport name)
  | beyond {name package : String} : isRelative name = true → l.config.anchor = some package →
      package ≠ "" → resolve? package name = none → Refused l file name .beyondAnchor

theorem ne_empty_of_isRelative (h : isRelative name = true) : name ≠ "" := by
  rintro rfl
  exact absurd h (by decide)

/-- With an anchor, whichever it is, the loader lets relative names pass. -/
theorem checkName_of_anchor {package : String} (hrel : isRelative name = true)
    (hanchor : l.config.anchor = some package) : l.checkName name file = .ok () := by
  simp [checkName, ne_empty_of_isRelative hrel, hanchor]

/-- **The names that are refused are those without a meaning.** -/
theorem exists_refused_iff :
    (∃ fault, l.Refused file name fault) ↔
      ∃ fault, absoluteName l.config.anchor name = .error fault := by
  constructor
  · rintro ⟨fault, h⟩
    cases h with
    | empty => exact ⟨.emptyModuleName, rfl⟩
    | unanchored hrel hanchor =>
      exact ⟨_, absoluteName_of_unanchored hrel (.inl hanchor)⟩
    | hollow hrel hanchor =>
      exact ⟨_, absoluteName_of_unanchored hrel (.inr hanchor)⟩
    | beyond hrel hanchor hne hbeyond =>
      exact ⟨.beyondAnchor, by rw [hanchor, absoluteName_of_relative hrel hne, hbeyond]⟩
  · rintro ⟨fault, h⟩
    by_cases hrel : isRelative name = true
    · rcases hanchor : l.config.anchor with _ | package
      · exact ⟨_, .unanchored hrel hanchor⟩
      · by_cases hne : package = ""
        · subst hne
          exact ⟨_, .hollow hrel hanchor⟩
        · rw [hanchor, absoluteName_of_relative hrel hne] at h
          rcases hresolve : resolve? package name with _ | absolute
          · exact ⟨_, .beyond hrel hanchor hne hresolve⟩
          · rw [hresolve] at h
            cases h
    · by_cases hempty : name = ""
      · subst hempty
        exact ⟨_, .empty⟩
      · rw [absoluteName_self (Bool.not_eq_true _ ▸ hrel) hempty] at h
        cases h

/-- **A name that is refused leaves the cache as it was.** -/
theorem acquire_of_refused (h : l.Refused file name fault) :
    l.acquire installed name file c = (.error fault, c) := by
  cases h with
  | empty => rfl
  | unanchored hrel hanchor =>
    have hcheck : l.checkName name file = .error (.unanchoredDependency name file) := by
      simp [checkName, ne_empty_of_isRelative hrel, hrel, hanchor]
    rw [acquire, hcheck]
  | hollow hrel hanchor =>
    have habs := absoluteName_of_unanchored hrel (.inr hanchor)
    rw [acquire, checkName_of_anchor hrel hanchor]
    simp only [importFrom, habs]
  | beyond hrel hanchor hne hbeyond =>
    have habs : absoluteName l.config.anchor name = .error .beyondAnchor := by
      rw [hanchor, absoluteName_of_relative hrel hne, hbeyond]
    rw [acquire, checkName_of_anchor hrel hanchor]
    simp only [importFrom, habs]

/-- What is refused is not reported as missing. -/
theorem Refused.ne_report (h : l.Refused file name fault) (what : MissingDependency) :
    fault ≠ .dependencyMissing what := by
  cases h <;> simp

/-- What the loader refuses by itself is a value that will not do, and it says for which file. -/
theorem Refused.namesFile (h : l.Refused file name fault)
    (hself : name = "" ∨ l.config.anchor = none) :
    fault.kind = "ValueError" ∧ fault.NamesFile file := by
  cases h with
  | empty =>
    have hwords : "Empty dependency name required for file '" =
        "Empty dependency name required for " ++ "file '" := by
      decide
    refine ⟨rfl, "Empty dependency name required for ", "", ?_⟩
    rw [String.append_empty, ← hwords]
    rfl
  | unanchored hrel hanchor =>
    have hbefore : " required for file '" = " required for " ++ "file '" := by decide
    have hafter : "' needs LoaderConfig.package to be set" =
        "'" ++ " needs LoaderConfig.package to be set" := by
      decide
    refine ⟨rfl, "Relative dependency name " ++ Text.quoted name ++ " required for ",
      " needs LoaderConfig.package to be set", ?_⟩
    show "Relative dependency name " ++ Text.quoted name ++ " required for file '" ++
      File.displayOptional file ++ "' needs LoaderConfig.package to be set" = _
    rw [hbefore, hafter, ← String.append_assoc, ← String.append_assoc]
  | hollow hrel hanchor => simp [hanchor, ne_empty_of_isRelative hrel] at hself
  | beyond hrel hanchor hne hbeyond => simp [hanchor, ne_empty_of_isRelative hrel] at hself

end Loader

end AssetPipeline
