/-
AssetPipeline/Proofs/Session/Spelling.lean

Relative and absolute spellings of a dependency.

A relative name that stands for an absolute one is the same dependency.  Both spellings import
the same module from the same cache, and what a loader makes of the outcome depends on the
absolute name only; the reports that a dependency is missing differ in how it was asked for and
in what to install (`SameEnd`).  A relative name that goes up beyond its anchor stands for
nothing: it is a fault of its own kind and no missing dependency.

Main statements: `sameEnd_judge` for what loaders make of an outcome, and `spellings_agree` for
requiring a dependency under both spellings.
-/
import AssetPipeline.Proofs.Loader.Refusal
import AssetPipeline.Proofs.Session.Run
import AssetPipeline.Session.Conduct

namespace AssetPipeline

open ModuleName

/-- Requiring a dependency ends alike in two places: with the same module, with reports that it is
missing for the same file and for the same cause, or with the same other fault. -/
inductive SameEnd : Except Fault Module → Except Fault Module → Prop
  | loaded (m : Module) : SameEnd (.ok m) (.ok m)
  | missing {what what' : MissingDependency} : what.cause = what'.cause → what.file = what'.file →
      SameEnd (.error (.dependencyMissing what)) (.error (.dependencyMissing what'))
  | failed {fault : Fault} : (∀ what, fault ≠ .dependencyMissing what) →
      SameEnd (.error fault) (.error fault)

namespace Loader

variable {l : Loader} {name absolute : String} {file : Option File}

/-- What loaders make of the import of a module, however it was asked for, ends alike. -/
theorem sameEnd_judge (l l' : Loader) (name name' : String) (file : Option File)
    (absolute : String) (outcome : Except Fault Module) :
    SameEnd (l.judge name file absolute outcome) (l'.judge name' file absolute outcome) := by
  rcases outcome with fault | m
  · cases fault with
    | moduleMissing why =>
      rw [judge, judge]
      split
      · exact .missing rfl rfl
      · exact .failed (by simp)
    | dependencyMissing what => exact .missing rfl rfl
    | _ => exact .failed (by simp)
  · exact .loaded m

/-- After an import that ended with a missing module, the name is resolved once more, to the name
that was looked up, and the verdict is about that. -/
theorem blame_of_absolute {why : ModuleMissing}
    (h : absoluteName l.config.anchor name = .ok absolute) :
    l.blame name file why =
      if concerns absolute why then .dependencyMissing (l.report name file why)
      else .moduleMissing why := by
  simp only [blame, resolveName_of_absolute h]
  rfl

end Loader

namespace Session

/-- **Relative and absolute spellings are the same dependency.**  A relative name stands for its
anchor without as many parts as it has dots but the first, and what follows the dots.  If that is
an absolute name, then requiring either of them, by loaders that may differ in everything else,
ends alike, and leaves the same session but for what has been written down.  Whenever the import of
the relative name ends with a missing module, the name that is resolved to judge this is the one
that was looked up.  With more dots than the anchor has parts, the name is refused by the import,
and not reported as missing. -/
theorem spellings_agree (s : Session) (l : Loader) (package name : String)
    (hanchor : l.config.anchor = some package) (hne : package ≠ "")
    (hrel : isRelative name = true) :
    (∀ absolute, resolve? package name = some absolute ↔
      ∃ (base : List Char) (parts : List (List Char)), parts.length = level name - 1 ∧
        (∀ part ∈ parts, '.' ∉ part) ∧ package.toList = base ++ parts.flatMap ('.' :: ·) ∧
        absolute = String.ofList (join base (tail name))) ∧
    (∀ absolute, resolve? package name = some absolute → absolute ≠ "" →
      isRelative absolute = false → ∀ (l' : Loader) (file : Option File),
        ∃ outcome outcome' : Except Fault Module, SameEnd outcome outcome' ∧
          ((require l name file).run s).1 = outcome.mapError .fault ∧
          ((require l' absolute file).run s).1 = outcome'.mapError .fault ∧
          { ((require l name file).run s).2 with log := s.log } =
            { ((require l' absolute file).run s).2 with log := s.log }) ∧
    (∀ why cache,
      importFrom s.installed l.config.anchor name s.cache = (.error (.moduleMissing why), cache) →
        ∃ absolute, absoluteName l.config.anchor name = .ok absolute ∧
          resolveName l.config.anchor name = .ok absolute ∧
          importName s.installed absolute s.cache = (.error (.moduleMissing why), cache) ∧
          ∀ file, l.blame name file why =
            if Loader.concerns absolute why then .dependencyMissing (l.report name file why)
            else .moduleMissing why) ∧
    (package.toList.count '.' + 1 < level name → ∀ file : Option File,
      (require l name file).run s = (.error (.fault .beyondAnchor), s) ∧
      (tryRequire l name file).run s = (.error (.fault .beyondAnchor), s) ∧
      Fault.beyondAnchor.kind = "ImportError") := by
  refine ⟨fun absolute => resolve?_eq_some_iff, ?_, ?_, ?_⟩
  · -- both import one name from one cache, and judge what comes of it
    intro absolute hresolve hempty habsolute l' file
    have habs : absoluteName l.config.anchor name = .ok absolute := by
      rw [hanchor, absoluteName_of_relative hrel hne, hresolve]
    have habs' : absoluteName l'.config.anchor absolute = .ok absolute :=
      absoluteName_self habsolute hempty
    refine ⟨_, _, Loader.sameEnd_judge l l' name absolute file absolute
      (importName s.installed absolute s.cache).1, ?_, ?_, ?_⟩
    · rw [run_require, Loader.acquire_of_absolute habs]
    · rw [run_require, Loader.acquire_of_absolute habs']
    · rw [run_require, run_require, Loader.acquire_of_absolute habs,
        Loader.acquire_of_absolute habs']
  · intro why cache himport
    obtain ⟨absolute, habs, hresolved, hlooked⟩ := resolveName_of_importFrom himport
    exact ⟨absolute, habs, hresolved, hlooked, fun file => Loader.blame_of_absolute habs⟩
  · intro hdots file
    have hbeyond : resolve? package name = none := by
      rw [resolve?_eq_none_iff]
      omega
    have hrefused : l.Refused file name .beyondAnchor := .beyond hrel hanchor hne hbeyond
    obtain ⟨hrequire, htry⟩ := run_refused (Loader.acquire_of_refused hrefused) hrefused.ne_report
    exact ⟨hrequire, htry, rfl⟩

/-- A package inside another one, beside which nothing is installed. -/
def nestedPackage : Session :=
  initial (Dict.ofList [("app", ⟨true, [], none⟩), ("app.core", ⟨true, [], none⟩)]) .still

/-- From inside `app.core`, a page beside it is missing for the same cause under both spellings, and
both imports have run the body of `app` only.  There is nothing four levels up. -/
theorem page_missing_under_both_spellings :
    ∃ what, ((require ⟨.default⟩ "app.web.page" none).run nestedPackage).1 =
        .error (.fault (.dependencyMissing what)) ∧
      what.cause = some (.undeclared "app.web") ∧
      ((require ⟨.default⟩ "app.web.page" none).run nestedPackage).2.cache.runs =
        Dict.ofList [("app", 1)] ∧
      (require ⟨⟨Dict.empty, some "app.core"⟩⟩ "....page" none).run nestedPackage =
        (.error (.fault .beyondAnchor), nestedPackage) := by
  obtain ⟨-, hends, -, -⟩ := spellings_agree nestedPackage ⟨⟨Dict.empty, some "app.core"⟩⟩
    "app.core" "..web.page" rfl (by decide) (by decide)
  obtain ⟨-, -, -, hbeyond⟩ := spellings_agree nestedPackage ⟨⟨Dict.empty, some "app.core"⟩⟩
    "app.core" "....page" rfl (by decide) (by decide)
  obtain ⟨outcome, outcome', hend, hrel, habs, hafter⟩ :=
    hends "app.web.page" (by decide +kernel) (by decide) (by decide) ⟨.default⟩ none
  have hmissing : ((require ⟨⟨Dict.empty, some "app.core"⟩⟩ "..web.page" none).run
      nestedPackage).1 = .error (.fault (.dependencyMissing
        ⟨"..web.page", none, none, some (.undeclared "app.web")⟩)) := by
    decide +kernel
  have hruns : ((require ⟨⟨Dict.empty, some "app.core"⟩⟩ "..web.page" none).run
      nestedPackage).2.cache.runs = Dict.ofList [("app", 1)] := by
    decide +kernel
  rw [hrel, mapError_eq_fault_iff] at hmissing
  have hcache := congrArg (fun after : Session => after.cache.runs) hafter
  subst hmissing
  cases hend with
  | failed hne => exact absurd rfl (hne _)
  | missing hcause hfile =>
    refine ⟨_, habs, hcause.symm, hcache.symm.trans hruns, ?_⟩
    exact (hbeyond (by decide) none).1

end Session

end AssetPipeline
