/-
AssetPipeline/Proofs/Session/Missing.lean

When a session says that a dependency is missing.

A dependency is reported as missing by the fault of requiring it, or by the result of
trying it (`Reports`); both are one and the same outcome of the loader
(`reports_iff`).  Such a report can have two origins.  Either the import ended
because a module is missing, and the report is about the request; or the code of some
module raised it, and then it may be about anything.

Main statements: `report_of_request_or_code` separates the two origins.
`missing_told_from_broken` shows that without reports raised by code, a report means
that a member of the chain asked for cannot be had, and that a dependency whose whole
chain can be had is never reported, however its code fails.
-/
import AssetPipeline.Proofs.Loader.Report
import AssetPipeline.Proofs.Session.Run
import AssetPipeline.Session.Conduct

namespace AssetPipeline.Session

open ModuleName

variable {s : Session} {l : Loader} {name absolute : String} {file : Option File}
variable {what : MissingDependency}

/-! ### Reports -/

/-- Requiring or trying the dependency comes to this report. -/
inductive Reports (s : Session) (l : Loader) (name : String) (file : Option File)
    (what : MissingDependency) : Prop
  | required :
      ((require l name file).run s).1 = .error (.fault (.dependencyMissing what)) →
      Reports s l name file what
  | tried {r : LoadResult Module} :
      ((tryRequire l name file).run s).1 = .ok r → r.fault = some (.dependencyMissing what) →
      Reports s l name file what
  | raised :
      ((tryRequire l name file).run s).1 = .error (.fault (.dependencyMissing what)) →
      Reports s l name file what

theorem require_error_iff {fault : Fault} :
    ((require l name file).run s).1 = .error (.fault fault) ↔
      (l.acquire s.installed name file s.cache).1 = .error fault := by
  rw [run_require]
  exact mapError_eq_fault_iff

/-- A result holds a fault only if the loader reports that the dependency is missing. -/
theorem fault_of_tryRequire {r : LoadResult Module} {fault : Fault}
    (h : ((tryRequire l name file).run s).1 = .ok r) (hr : r.fault = some fault) :
    ∃ what, fault = .dependencyMissing what ∧
      (l.acquire s.installed name file s.cache).1 = .error (.dependencyMissing what) := by
  rw [run_tryRequire] at h
  exact Loader.fault_of_tried (mapError_eq_ok_iff.1 h) hr

/-- Both ways report what the loader reports. -/
theorem reports_iff :
    Reports s l name file what ↔
      (l.acquire s.installed name file s.cache).1 = .error (.dependencyMissing what) := by
  constructor
  · rintro (h | ⟨h, hr⟩ | h)
    · exact require_error_iff.1 h
    · obtain ⟨what', hwhat, hacq⟩ := fault_of_tryRequire h hr
      cases hwhat
      exact hacq
    · rw [run_tryRequire] at h
      exact absurd (mapError_eq_fault_iff.1 h) (Loader.tried_ne_report _ what)
  · intro h
    exact .required (require_error_iff.2 h)

/-! ### Reports by their origin -/

/-- No code of an installed module says in its own words that a module or a dependency is
missing. -/
def Candid (installed : Installed) : Prop :=
  ∀ name body fault, installed.get? name = some body → body.failure = some fault →
    (∀ why, fault ≠ .moduleMissing why) ∧ ∀ what, fault ≠ .dependencyMissing what

/-- Without reports in its own words, code only ever fails to find what is truly lacking. -/
theorem lacks_of_importName {installed : Installed} {c : ModuleCache} {why : ModuleMissing}
    (hcandid : Candid installed)
    (h : (importName installed absolute c).1 = .error (.moduleMissing why)) :
    Lacks installed c why := by
  rcases importName_cause h with ⟨hl, -, -⟩ | hf
  · exact hl
  · cases hf with
    | raised hb hf => exact absurd rfl ((hcandid _ _ _ hb hf).1 why)
    | meaningless hb hi he => exact absurd rfl ((absoluteName_error he).1 why)
    | imported hb hi he hc =>
      obtain ⟨hl, -, -⟩ := hc
      exact hl

theorem not_raisedByCode {installed : Installed} (hcandid : Candid installed) :
    ¬ RaisedByCode installed what := by
  rintro ⟨name, body, hb, hf⟩
  exact (hcandid name body _ hb hf).2 what rfl

/-- The import itself, where no member of the chain is lacking. -/
theorem judge_of_available {installed : Installed} {c : ModuleCache} (hcandid : Candid installed)
    (hrel : isRelative absolute = false)
    (hav : ∀ member ∈ chain absolute, Available installed c member) :
    l.judge name file absolute (importName installed absolute c).1 =
      (importName installed absolute c).1 := by
  rcases hout : (importName installed absolute c).1 with fault | m
  · cases fault with
    | moduleMissing why =>
      -- what is lacking is no member of the chain, so it does not concern the dependency
      have hl := lacks_of_importName hcandid hout
      have hc : Loader.concerns absolute why = false := by
        rw [← Bool.not_eq_true, Loader.concerns_iff hrel]
        rintro ⟨member, hname, hmem⟩
        exact hl.not_available hname (hav member hmem)
      simp [Loader.judge, hc]
    | _ => rfl
  · rfl

/-- **Missing is told apart from broken.**  Where every member of the chain can be had, nothing is
reported as missing, and what the code of some module fails with reaches the caller as it is.
Where a dependency is reported as missing, the cause names a member of its chain that cannot be
had; and it is reported wherever its import ended for such a cause. -/
theorem missing_told_from_broken (s : Session) (l : Loader) (name : String)
    (file : Option File) {absolute : String} (hcandid : Candid s.installed)
    (habs : absoluteName l.config.anchor name = .ok absolute)
    (hrel : isRelative absolute = false) :
    ((∀ member ∈ chain absolute, Available s.installed s.cache member) →
      (∀ what, ¬ Reports s l name file what) ∧
      ((require l name file).run s).1 =
        (importName s.installed absolute s.cache).1.mapError .fault ∧
      ((tryRequire l name file).run s).1 =
        ((importName s.installed absolute s.cache).1.map .success).mapError .fault ∧
      ∀ fault, (importName s.installed absolute s.cache).1 = .error fault →
        BodyFault s.installed s.cache fault) ∧
    (∀ what, Reports s l name file what →
      ∃ why member, what.cause = some why ∧ why.name? = some member ∧
        member ∈ chain absolute ∧ Lacks s.installed s.cache why ∧
        ¬ Available s.installed s.cache member) ∧
    ∀ why member, (importName s.installed absolute s.cache).1 = .error (.moduleMissing why) →
      why.name? = some member → member ∈ chain absolute →
      Reports s l name file (l.report name file why) := by
  refine ⟨?_, ?_, ?_⟩
  · intro hav
    have hacq : (l.acquire s.installed name file s.cache).1 =
        (importName s.installed absolute s.cache).1 := by
      rw [Loader.acquire_of_absolute habs]
      exact judge_of_available hcandid hrel hav
    have hno : ∀ what, (importName s.installed absolute s.cache).1 ≠
        .error (.dependencyMissing what) :=
      fun what h => not_raisedByCode hcandid (raisedByCode_of_importName h)
    refine ⟨?_, ?_, ?_, ?_⟩
    · intro what h
      rw [reports_iff, hacq] at h
      exact hno what h
    · rw [run_require, hacq]
    · rw [run_tryRequire, hacq, Loader.tried_of_ne_report hno]
    · intro fault h
      rcases importName_cause h with ⟨hl, hname, hmem⟩ | hf
      · exact absurd (hav _ hmem) (hl.not_available hname)
      · exact hf
  · intro what h
    obtain ⟨absolute', habs', h⟩ := Loader.acquire_eq_report (reports_iff.1 h)
    rw [habs] at habs'
    cases habs'
    rcases h with ⟨why, himp, hc, rfl⟩ | himp
    · obtain ⟨member, hname, hmem⟩ := (Loader.concerns_iff hrel).1 hc
      have hl := lacks_of_importName hcandid himp
      exact ⟨why, member, rfl, hname, hmem, hl, hl.not_available hname⟩
    · exact absurd (raisedByCode_of_importName himp) (not_raisedByCode hcandid)
  · intro why member himp hname hmem
    have hc : Loader.concerns absolute why = true :=
      (Loader.concerns_iff hrel).2 ⟨member, hname, hmem⟩
    rw [reports_iff, Loader.acquire_of_absolute habs, himp]
    simp [Loader.judge, hc]

/-- A session with a package that has one module inside and needs another one that is not there. -/
def packageSession : Session :=
  initial (Dict.ofList [("app", ⟨true, ["yaml"], none⟩), ("app.view", ⟨false, [], none⟩)]) .still

theorem candid_packageSession : Candid packageSession.installed := by
  intro name body fault hb hf
  have hb' : (if name = "app.view" then some (ModuleBody.mk false [] none)
      else if name = "app" then some ⟨true, ["yaml"], none⟩ else none) = some body := by
    simpa [packageSession, initial, Dict.ofList] using hb
  split at hb'
  · cases hb'
    cases hf
  · split at hb'
    · cases hb'
      cases hf
    · cases hb'

theorem available_packageSession :
    ∀ member ∈ chain "app.view",
      Available packageSession.installed packageSession.cache member := by
  have hbody : packageSession.installed.get? "app" = some ⟨true, ["yaml"], none⟩ := by
    decide +kernel
  have hview : packageSession.installed.get? "app.view" = some ⟨false, [], none⟩ := by
    decide +kernel
  have happ : Available packageSession.installed packageSession.cache "app" :=
    .root rfl hbody (by decide +kernel)
  have hchain : chain "app.view" = ["app.view", "app"] := by decide +kernel
  rw [hchain]
  intro member hmem
  simp only [List.mem_cons, List.not_mem_nil, or_false] at hmem
  rcases hmem with rfl | rfl
  · exact .inside rfl hview (by decide +kernel) happ (Or.inr ⟨rfl, _, hbody, rfl⟩)
  · exact happ

/-- The package is there and its code fails; a package beside it is missing. -/
theorem broken_package_and_missing_package :
    ((require ⟨⟨Dict.empty, some "app"⟩⟩ ".view" none).run packageSession).1 =
        .error (.fault (.moduleMissing (.undeclared "yaml"))) ∧
      BodyFault packageSession.installed packageSession.cache
        (.moduleMissing (.undeclared "yaml")) ∧
      Reports packageSession ⟨.default⟩ "web.view" none
        ⟨"web.view", none, none, some (.undeclared "web")⟩ ∧
      ¬ Available packageSession.installed packageSession.cache "web" := by
  have himp : (importName packageSession.installed "app.view" packageSession.cache).1 =
      .error (.moduleMissing (.undeclared "yaml")) := by
    decide +kernel
  have hrep : Reports packageSession ⟨.default⟩ "web.view" none
      ⟨"web.view", none, none, some (.undeclared "web")⟩ := .required (by decide +kernel)
  have hview : absoluteName (some "app") ".view" = .ok "app.view" := by decide +kernel
  have hweb : absoluteName none "web.view" = .ok "web.view" := by decide +kernel
  obtain ⟨-, hreq, -, hbody⟩ :=
    (missing_told_from_broken packageSession ⟨⟨Dict.empty, some "app"⟩⟩ ".view" none
      candid_packageSession hview (by decide +kernel)).1 available_packageSession
  obtain ⟨why, member, hwhy, hname, -, -, hno⟩ :=
    (missing_told_from_broken packageSession ⟨.default⟩ "web.view" none
      candid_packageSession hweb (by decide +kernel)).2.1 _ hrep
  refine ⟨by rw [hreq, himp]; rfl, hbody _ himp, hrep, ?_⟩
  cases hwhy
  cases hname
  exact hno

end AssetPipeline.Session
