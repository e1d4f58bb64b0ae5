/-
AssetPipeline/Proofs/Session/Trying.lean

Requiring a dependency and trying it.

Both ways import the dependency by the loader, so they leave the same modules loaded and
touch nothing else but the log.  They end in one of three ways (`Agreement`): both get the
module; both learn that the dependency is missing, the one as a fault and the other as a
result; or both stop with the same other fault.  What is written down differs in the first
two.  To open the result of trying is then to require.

Main statements: `agreement` compares both ways from the same session, and
`require_tryRequire_agree` spells it out.
-/
import AssetPipeline.Proofs.Loader.Report
import AssetPipeline.Proofs.Session.Run
import AssetPipeline.Session.Conduct

namespace AssetPipeline.Session

variable {s after : Session} {l : Loader} {name on : String} {file : Option File}
  {required : Except Halt Module × Session} {tried : Except Halt (LoadResult Module) × Session}

/-- How requiring a dependency and trying it end, from the session `s`. -/
inductive Agreement (s : Session) (name : String) (file : Option File) :
    Except Halt Module × Session → Except Halt (LoadResult Module) × Session → Prop
  | loaded (m : Module) (cache : ModuleCache) :
      Agreement s name file
        (.ok m, { s with cache := cache, log := s.log ++ [.dependencyLoaded name file] })
        (.ok (.success m), { s with cache := cache })
  | missing (what : MissingDependency) (cache : ModuleCache) :
      Agreement s name file
        (.error (.fault (.dependencyMissing what)),
          { s with cache := cache, log := s.log ++ [.dependencyMissing .warning what] })
        (.ok (.failure (.dependencyMissing what)),
          { s with cache := cache, log := s.log ++ [.dependencyMissing .debug what] })
  | failed {fault : Fault} (cache : ModuleCache) : (∀ what, fault ≠ .dependencyMissing what) →
      Agreement s name file (.error (.fault fault), { s with cache := cache })
        (.error (.fault fault), { s with cache := cache })

/-- **Requiring and trying agree**, whatever the import comes to. -/
theorem agreement (s : Session) (l : Loader) (name : String) (file : Option File) :
    Agreement s name file ((require l name file).run s) ((tryRequire l name file).run s) := by
  rw [run_require, run_tryRequire]
  rcases l.acquire s.installed name file s.cache with ⟨fault | m, cache⟩
  · by_cases hreport : ∃ what, fault = .dependencyMissing what
    · obtain ⟨what, rfl⟩ := hreport
      exact .missing what cache
    · have hne : ∀ what, fault ≠ .dependencyMissing what := fun what h => hreport ⟨what, h⟩
      have hrequire : Loader.requireEvents name file (.error fault) = [] := by
        cases fault with
        | dependencyMissing what => exact absurd rfl (hne what)
        | _ => rfl
      have htry : Loader.tryEvents (.error fault) = [] := by
        cases fault with
        | dependencyMissing what => exact absurd rfl (hne what)
        | _ => rfl
      have htried : Loader.tried (.error fault) = .error fault :=
        Loader.tried_of_ne_report fun what h => hne what (Except.error.inj h)
      rw [hrequire, htry, htried, List.append_nil]
      exact .failed cache hne
  · have htry : Loader.tryEvents (.ok m) = [] := rfl
    rw [htry, List.append_nil]
    exact .loaded m cache

/-! ### Opening a result -/

/-- What a result object holds is what the result holds. -/
theorem heldBy_ofOption (value : Option Module) (fault : Option Fault) :
    heldBy (.ofOption (value.map .module)) fault = ⟨value.map .module, fault⟩ := by
  cases value <;> rfl

theorem run_unwrap {id : Nat} {value : Object} {fault : Option Fault}
    (h : after.handles.get? on = some (.result id value fault)) :
    (performResult on .unwrap).run after =
      ((heldBy value fault).unwrap.mapError Halt.fault, after) := by
  unfold performResult
  rw [run_bind_ok (run_handle h)]
  exact run_ofExcept _ after

namespace Agreement

/-! ### The three outcomes -/

theorem loaded_iff (h : Agreement s name file required tried) {m : Module} :
    required.1 = .ok m ↔
      ∃ r, tried.1 = .ok r ∧ r.ok = true ∧ r.value = some m ∧ r.fault = none := by
  cases h with
  | loaded m' cache =>
    constructor
    · intro hm
      cases hm
      exact ⟨_, rfl, rfl, rfl, rfl⟩
    · rintro ⟨r, hr, -, hvalue, -⟩
      cases hr
      cases hvalue
      rfl
  | missing what cache =>
    constructor
    · intro hm
      cases hm
    · rintro ⟨r, hr, -, hvalue, -⟩
      cases hr
      cases hvalue
  | failed cache hne =>
    constructor
    · intro hm
      cases hm
    · rintro ⟨r, hr, -⟩
      cases hr

theorem missing_iff (h : Agreement s name file required tried) {what : MissingDependency} :
    required.1 = .error (.fault (.dependencyMissing what)) ↔
      ∃ r, tried.1 = .ok r ∧ r.ok = false ∧ r.value = none ∧
        r.fault = some (.dependencyMissing what) := by
  cases h with
  | loaded m cache =>
    constructor
    · intro hwhat
      cases hwhat
    · rintro ⟨r, hr, -, -, hfault⟩
      cases hr
      cases hfault
  | missing what' cache =>
    constructor
    · intro hwhat
      cases hwhat
      exact ⟨_, rfl, rfl, rfl, rfl⟩
    · rintro ⟨r, hr, -, -, hfault⟩
      cases hr
      cases hfault
      rfl
  | failed cache hne =>
    constructor
    · intro hwhat
      cases hwhat
      exact absurd rfl (hne what)
    · rintro ⟨r, hr, -⟩
      cases hr

/-- Every stop but for a missing dependency is the same. -/
theorem failed_iff (h : Agreement s name file required tried) {halt : Halt}
    (hne : ∀ what, halt ≠ .fault (.dependencyMissing what)) :
    required.1 = .error halt ↔ tried.1 = .error halt := by
  cases h with
  | loaded m cache => constructor <;> intro hhalt <;> cases hhalt
  | missing what cache =>
    constructor
    · intro hhalt
      cases hhalt
      exact absurd rfl (hne what)
    · intro hhalt
      cases hhalt
  | failed cache _ => constructor <;> intro hhalt <;> cases hhalt <;> rfl

/-- Both leave the same modules loaded, and everything else but the log as it was. -/
theorem untouched (h : Agreement s name file required tried) :
    ∃ cache, { required.2 with log := s.log } = { s with cache := cache } ∧
      { tried.2 with log := s.log } = { s with cache := cache } := by
  cases h with
  | loaded m cache => exact ⟨cache, rfl, rfl⟩
  | missing what cache => exact ⟨cache, rfl, rfl⟩
  | failed cache _ => exact ⟨cache, rfl, rfl⟩

/-! ### What is written down -/

theorem log_of_loaded (h : Agreement s name file required tried) {m : Module}
    (hm : required.1 = .ok m) :
    required.2.log = s.log ++ [.dependencyLoaded name file] ∧ tried.2.log = s.log := by
  cases h with
  | loaded m' cache => exact ⟨rfl, rfl⟩
  | missing what cache => cases hm
  | failed cache _ => cases hm

theorem log_of_missing (h : Agreement s name file required tried) {what : MissingDependency}
    (hwhat : required.1 = .error (.fault (.dependencyMissing what))) :
    required.2.log = s.log ++ [.dependencyMissing .warning what] ∧
      tried.2.log = s.log ++ [.dependencyMissing .debug what] := by
  cases h with
  | loaded m cache => cases hwhat
  | missing what' cache =>
    cases hwhat
    exact ⟨rfl, rfl⟩
  | failed cache hne =>
    cases hwhat
    exact absurd rfl (hne what)

theorem log_of_failed (h : Agreement s name file required tried) {halt : Halt}
    (hne : ∀ what, halt ≠ .fault (.dependencyMissing what)) (hhalt : required.1 = .error halt) :
    required.2.log = s.log ∧ tried.2.log = s.log := by
  cases h with
  | loaded m cache => cases hhalt
  | missing what cache =>
    cases hhalt
    exact absurd rfl (hne what)
  | failed cache _ => exact ⟨rfl, rfl⟩

/-! ### What the result comes to -/

/-- To open the result of trying is to require. -/
theorem unwrap (h : Agreement s name file required tried) {r : LoadResult Module}
    (hr : tried.1 = .ok r) :
    r.unwrap.mapError Halt.fault = required.1 ∧ r.unwrap ≠ .error .emptyResult := by
  cases h with
  | loaded m cache =>
    cases hr
    exact ⟨rfl, by simp [LoadResult.success, LoadResult.unwrap]⟩
  | missing what cache =>
    cases hr
    exact ⟨rfl, by simp [LoadResult.failure, LoadResult.unwrap]⟩
  | failed cache _ => cases hr

/-- The same goes for the object by which a session keeps the result. -/
theorem unwrap_object (h : Agreement s name file required tried) {r : LoadResult Module} {id : Nat}
    (hr : tried.1 = .ok r)
    (hon : after.handles.get? on = some (.result id (.ofOption (r.value.map .module)) r.fault)) :
    (performResult on .unwrap).run after = (required.1.map .module, after) := by
  rw [run_unwrap hon, heldBy_ofOption]
  cases h with
  | loaded m cache =>
    cases hr
    rfl
  | missing what cache =>
    cases hr
    rfl
  | failed cache _ => cases hr

end Agreement

/-- **Requiring a dependency and trying it agree.**  Where the one gives a module, the result of the
other holds this module and no fault; where the one reports that the dependency is missing, the
result of the other holds this very report and no module; every other stop is the same for both.
Both leave the same modules loaded and bodies run, and nothing else but the log is touched. -/
theorem require_tryRequire_agree (s : Session) (l : Loader) (name : String)
    (file : Option File) :
    let required := (require l name file).run s
    let tried := (tryRequire l name file).run s
    (∀ m, required.1 = .ok m ↔
      ∃ r, tried.1 = .ok r ∧ r.ok = true ∧ r.value = some m ∧ r.fault = none) ∧
    (∀ what, required.1 = .error (.fault (.dependencyMissing what)) ↔
      ∃ r, tried.1 = .ok r ∧ r.ok = false ∧ r.value = none ∧
        r.fault = some (.dependencyMissing what)) ∧
    (∀ halt, (∀ what, halt ≠ .fault (.dependencyMissing what)) →
      (required.1 = .error halt ↔ tried.1 = .error halt)) ∧
    (∀ r, tried.1 = .ok r →
      r.unwrap.mapError Halt.fault = required.1 ∧ r.unwrap ≠ .error .emptyResult ∧
        ∀ id on after, after.handles.get? on =
            some (.result id (.ofOption (r.value.map .module)) r.fault) →
          (performResult on .unwrap).run after = (required.1.map .module, after)) ∧
    (∃ cache, { required.2 with log := s.log } = { s with cache := cache } ∧
      { tried.2 with log := s.log } = { s with cache := cache }) ∧
    (∀ m, required.1 = .ok m →
      required.2.log = s.log ++ [.dependencyLoaded name file] ∧ tried.2.log = s.log) ∧
    (∀ what, required.1 = .error (.fault (.dependencyMissing what)) →
      required.2.log = s.log ++ [.dependencyMissing .warning what] ∧
        tried.2.log = s.log ++ [.dependencyMissing .debug what]) ∧
    ∀ halt, (∀ what, halt ≠ .fault (.dependencyMissing what)) → required.1 = .error halt →
      required.2.log = s.log ∧ tried.2.log = s.log := by
  intro required tried
  have h : Agreement s name file required tried := agreement s l name file
  refine ⟨?_, ?_, ?_, ?_, h.untouched, ?_, ?_, ?_⟩
  · intro m
    exact h.loaded_iff
  · intro what
    exact h.missing_iff
  · intro halt hne
    exact h.failed_iff hne
  · intro r hr
    obtain ⟨hunwrap, hfull⟩ := h.unwrap hr
    refine ⟨hunwrap, hfull, ?_⟩
    intro id on after hon
    exact h.unwrap_object hr hon
  · intro m hm
    exact h.log_of_loaded hm
  · intro what hwhat
    exact h.log_of_missing hwhat
  · intro halt hne hhalt
    exact h.log_of_failed hne hhalt

/-- A dependency that is not installed is told twice, once as a warning. -/
theorem both_ways_to_a_missing_dependency :
    ∃ what, ((require ⟨.default⟩ "yaml" none).run (initial Dict.empty .still)).1 =
        .error (.fault (.dependencyMissing what)) ∧
      (∃ r, ((tryRequire ⟨.default⟩ "yaml" none).run (initial Dict.empty .still)).1 = .ok r ∧
        r.fault = some (.dependencyMissing what)) ∧
      ((require ⟨.default⟩ "yaml" none).run (initial Dict.empty .still)).2.log =
        [.dependencyMissing .warning what] ∧
      ((tryRequire ⟨.default⟩ "yaml" none).run (initial Dict.empty .still)).2.log =
        [.dependencyMissing .debug what] := by
  obtain ⟨-, hmissing, -, -, -, -, hlog, -⟩ :=
    require_tryRequire_agree (initial Dict.empty .still) ⟨.default⟩ "yaml" none
  have hrequired : ((require ⟨.default⟩ "yaml" none).run (initial Dict.empty .still)).1 =
      .error (.fault (.dependencyMissing ⟨"yaml", none, none, some (.undeclared "yaml")⟩)) := by
    decide +kernel
  obtain ⟨r, hr, -, -, hfault⟩ := (hmissing _).1 hrequired
  exact ⟨_, hrequired, ⟨r, hr, hfault⟩, hlog _ hrequired⟩

end AssetPipeline.Session
