/-
AssetPipeline/Proofs/Loader/Report.lean

What a loader says about a missing dependency.

A loader makes something of its own only of a missing module that concerns the
dependency: the report that this dependency is missing for this file (`judge`).  A
fault of another kind is passed on, and so is a report that the code of an installed
module has raised for reasons of its own, which may be about another dependency and
another file.

Main statements: `acquire_of_absolute` and `acquire_of_meaningless` give the outcome
of a loader for every name, `acquire_eq_report` says which reports it comes to, and
`raisedByCode_of_importName` that a report which an import ends with was raised by the
code of an installed module.
-/
import AssetPipeline.Loader
import AssetPipeline.Proofs.Module.Cause

namespace AssetPipeline

open ModuleName

/-- A name without a meaning is no missing module, and nothing is reported. -/
theorem absoluteName_error {anchor : Option String} {name : String} {fault : Fault}
    (h : absoluteName anchor name = .error fault) :
    (∀ why, fault ≠ .moduleMissing why) ∧ ∀ what, fault ≠ .dependencyMissing what := by
  unfold absoluteName at h
  split at h
  · split at h
    · cases h
      simp
    · cases h
      simp
    · split at h
      · cases h
      · cases h
        simp
  · split at h
    · cases h
      simp
    · cases h

namespace Loader

variable {l : Loader} {installed : Installed} {c : ModuleCache} {name absolute : String}
variable {file : Option File} {fault : Fault} {what : MissingDependency}

/-! ### The outcome of an import by a loader -/

/-- The report that `name` is missing for `file`. -/
def report (l : Loader) (name : String) (file : Option File) (why : ModuleMissing) :
    MissingDependency where
  dependency := name
  file := file.map File.location
  hint := l.config.hintFor name
  cause := some why

/-- What a loader makes of the outcome of the import of `absolute`, asked for by `name`. -/
def judge (l : Loader) (name : String) (file : Option File) (absolute : String) :
    Except Fault Module → Except Fault Module
  | .error (.moduleMissing why) =>
    if concerns absolute why then .error (.dependencyMissing (l.report name file why))
    else .error (.moduleMissing why)
  | outcome => outcome

theorem checkName_of_absolute (h : absoluteName l.config.anchor name = .ok absolute) :
    l.checkName name file = .ok () := by
  unfold absoluteName at h
  unfold checkName
  by_cases hrel : isRelative name = true
  · -- a relative name is not empty, and it has a meaning only with an anchor
    have hname : name ≠ "" := by
      rintro rfl
      exact absurd hrel (by decide)
    rw [if_pos hrel] at h
    cases ha : l.config.anchor with
    | none =>
      rw [ha] at h
      cases h
    | some package => simp [hname]
  · rw [if_neg hrel] at h
    by_cases hname : name = ""
    · rw [if_pos hname] at h
      cases h
    · simp [hname, hrel]

/-- A name with a meaning is imported, and the outcome is judged. -/
theorem acquire_of_absolute (h : absoluteName l.config.anchor name = .ok absolute) :
    l.acquire installed name file c =
      (l.judge name file absolute (importName installed absolute c).1,
        (importName installed absolute c).2) := by
  unfold acquire
  rw [checkName_of_absolute h]
  simp only [importFrom, h]
  rcases importName installed absolute c with ⟨fault | m, c'⟩
  · cases fault with
    | moduleMissing why =>
      simp only [blame, resolveName_of_absolute h, judge]
      split <;> rfl
    | _ => rfl
  · rfl

/-- What has no meaning as a name is refused, with the cache as it was. -/
theorem acquire_of_meaningless (h : absoluteName l.config.anchor name = .error fault) :
    ∃ refusal, l.acquire installed name file c = (.error refusal, c) ∧
      ∀ what, refusal ≠ .dependencyMissing what := by
  have hfault := absoluteName_error h
  unfold acquire
  split
  · next refusal hr =>
    refine ⟨refusal, rfl, ?_⟩
    unfold checkName at hr
    split at hr
    · cases hr
      simp
    · split at hr
      · cases hr
        simp
      · cases hr
  · -- a name that passes the check may still go beyond its anchor
    simp only [importFrom, h]
    split
    · next why c' heq =>
      cases heq
      exact absurd rfl (hfault.1 why)
    · exact ⟨fault, rfl, hfault.2⟩

/-! ### Results -/

/-- A result holds a fault only where a dependency is reported as missing. -/
theorem fault_of_tried {outcome : Except Fault Module} {r : LoadResult Module}
    (h : tried outcome = .ok r) (hr : r.fault = some fault) :
    ∃ what, fault = .dependencyMissing what ∧ outcome = .error (.dependencyMissing what) := by
  unfold tried at h
  split at h
  · cases h
    cases hr
  · next what =>
    cases h
    cases hr
    exact ⟨what, rfl, rfl⟩
  · cases h

/-- A result holds a module only where the dependency was imported. -/
theorem tried_eq_success_iff {outcome : Except Fault Module} {m : Module} :
    tried outcome = .ok (.success m) ↔ outcome = .ok m := by
  constructor
  · intro h
    unfold tried at h
    split at h
    · cases h
      rfl
    · cases h
    · cases h
  · rintro rfl
    rfl

/-- To try a dependency never ends with a report: that is a result. -/
theorem tried_ne_report (outcome : Except Fault Module) (what : MissingDependency) :
    tried outcome ≠ .error (.dependencyMissing what) := by
  intro h
  unfold tried at h
  split at h
  · cases h
  · cases h
  · next hne =>
    cases h
    exact hne what rfl

/-- Where nothing is reported, to try a dependency ends as its import does. -/
theorem tried_of_ne_report {outcome : Except Fault Module}
    (h : ∀ what, outcome ≠ .error (.dependencyMissing what)) :
    tried outcome = outcome.map .success := by
  unfold tried
  split
  · rfl
  · next what => exact absurd rfl (h what)
  · rfl

/-! ### Modules -/

theorem judge_eq_ok_iff {outcome : Except Fault Module} {m : Module} :
    l.judge name file absolute outcome = .ok m ↔ outcome = .ok m := by
  rcases outcome with fault | m'
  · cases fault with
    | moduleMissing why =>
      rw [judge]
      split <;> simp
    | _ => simp [judge]
  · exact Iff.rfl

/-- The module that a dependency comes to has the absolute name of the dependency, and is loaded
then. -/
theorem loaded_of_acquire {m : Module} (h : (l.acquire installed name file c).1 = .ok m) :
    absoluteName l.config.anchor name = .ok m.name ∧
      ∃ package, (l.acquire installed name file c).2.entries.get? m.name =
        some (.loaded m.run package) := by
  rcases habs : absoluteName l.config.anchor name with fault | absolute
  · obtain ⟨refusal, hacq, -⟩ := acquire_of_meaningless habs
    rw [hacq] at h
    cases h
  · rw [acquire_of_absolute habs] at h ⊢
    have himport : (importName installed absolute c).1 = .ok m := judge_eq_ok_iff.1 h
    obtain ⟨hname, package, hentry⟩ := (importName_proper installed absolute c).present himport
    rw [hname]
    exact ⟨rfl, package, hentry⟩

/-- A dependency that is loaded is given as it is, and nothing happens to the cache. -/
theorem acquire_of_loaded {run : Nat} {package : Bool}
    (habs : absoluteName l.config.anchor name = .ok absolute)
    (h : c.entries.get? absolute = some (.loaded run package)) :
    l.acquire installed name file c = (.ok ⟨absolute, run⟩, c) := by
  rw [acquire_of_absolute habs, importName_of_entry h]
  rfl

/-- Whatever becomes of a dependency, the cache grows. -/
theorem grows_acquire (l : Loader) (installed : Installed) (name : String) (file : Option File)
    (c : ModuleCache) : Grows installed c (l.acquire installed name file c).2 := by
  rcases habs : absoluteName l.config.anchor name with fault | absolute
  · obtain ⟨refusal, hacq, -⟩ := acquire_of_meaningless habs
    rw [hacq]
    exact .refl installed c
  · rw [acquire_of_absolute habs]
    exact (importName_proper installed absolute c).grows

/-! ### Reports -/

/-- A report comes from the judgement, or from the import itself. -/
theorem judge_eq_report {outcome : Except Fault Module}
    (h : l.judge name file absolute outcome = .error (.dependencyMissing what)) :
    (∃ why, outcome = .error (.moduleMissing why) ∧ concerns absolute why = true ∧
      what = l.report name file why) ∨ outcome = .error (.dependencyMissing what) := by
  unfold judge at h
  split at h
  · next why =>
    split at h
    · next hc =>
      cases h
      exact Or.inl ⟨why, rfl, hc, rfl⟩
    · cases h
  · exact Or.inr h

/-- A loader reports a dependency whose import ended because a module it concerns is missing, and it
passes on the report that an import ended with. -/
theorem acquire_eq_report
    (h : (l.acquire installed name file c).1 = .error (.dependencyMissing what)) :
    ∃ absolute, absoluteName l.config.anchor name = .ok absolute ∧
      ((∃ why, (importName installed absolute c).1 = .error (.moduleMissing why) ∧
          concerns absolute why = true ∧ what = l.report name file why) ∨
        (importName installed absolute c).1 = .error (.dependencyMissing what)) := by
  rcases habs : absoluteName l.config.anchor name with fault | absolute
  · obtain ⟨refusal, hacq, hno⟩ := acquire_of_meaningless habs
    rw [hacq] at h
    cases h
    exact absurd rfl (hno what)
  · rw [acquire_of_absolute habs] at h
    exact ⟨absolute, rfl, judge_eq_report h⟩

theorem concerns_iff {why : ModuleMissing} (hrel : isRelative absolute = false) :
    concerns absolute why = true ↔ ∃ member, why.name? = some member ∧ member ∈ chain absolute := by
  unfold concerns
  cases why.name? with
  | none => simp
  | some missing => simp [encloses_iff_mem_chain hrel]

end Loader

theorem importFrom_of_absolute {installed : Installed} {anchor : Option String}
    {name absolute : String} (h : absoluteName anchor name = .ok absolute) (c : ModuleCache) :
    importFrom installed anchor name c = importName installed absolute c := by
  simp only [importFrom, h]

/-! ### Reports from elsewhere -/

/-- The code of an installed module raises this report. -/
def RaisedByCode (installed : Installed) (what : MissingDependency) : Prop :=
  ∃ name body, installed.get? name = some body ∧ body.failure = some (.dependencyMissing what)

/-- An import by itself reports nothing: a report that it ends with was raised by code. -/
theorem raisedByCode_of_importName {installed : Installed} {name : String} {c : ModuleCache}
    {what : MissingDependency}
    (h : (importName installed name c).1 = .error (.dependencyMissing what)) :
    RaisedByCode installed what := by
  rcases importName_cause h with hf | hf
  · cases hf
  · -- an import in a body never reports: only raising does
    cases hf with
    | raised hb hf => exact ⟨_, _, hb, hf⟩
    | meaningless hb hi he => exact absurd rfl ((absoluteName_error he).2 what)
    | imported hb hi he hc => cases hc

end AssetPipeline
