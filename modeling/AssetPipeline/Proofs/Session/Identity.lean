/-
AssetPipeline/Proofs/Session/Identity.lean

A module that has been given stays the same.

A module that is loaded is given to everybody who asks for its name, without a look at what is
installed by now or at what has become of the packages around it.  An import keeps every entry of
the cache, whatever bodies it runs and whichever of them fail: a body that fails takes only its own
entry with it, and a name that has an entry is not run.  So the only things that can take a module
away are steps that unload or block this very name (`ModuleStep.Spares`).

From the time when a loader has given a module, its entry therefore stays there from each asking to
the next one (`Stays`), and every loader whose name for it comes to the same absolute name gives it
again and runs nothing (`Asking.Reuses`).

Main statements: `stays_performModules` for one step, `holds_of_linked` for a run, and
`module_stays_the_same`.
-/
import AssetPipeline.Proofs.Session.LoadOnce

namespace AssetPipeline

/-- The step takes no module of this name away. -/
def ModuleStep.Spares (name : String) : ModuleStep → Prop
  | .unload other | .block other => other ≠ name
  | .install .. | .uninstall _ => True

/-- The absolute name of what the loader is asked for. -/
def Asking.absolute (a : Asking) : Except Fault String :=
  absoluteName a.loader.config.anchor a.name

namespace Session

variable {s after : Session} {m : Module}

/-! ### A module that is loaded -/

/-- The module, of this run of its body, is in the cache. -/
def Holds (s : Session) (m : Module) : Prop :=
  ∃ package, s.cache.entries.get? m.name = some (.loaded m.run package)

/-- A module that is in the cache is there afterwards. -/
def Stays (m : Module) (s after : Session) : Prop := s.Holds m → after.Holds m

instance : OverlooksRenders (Stays m) where
  refl _ h := h
  trans _ _ _ h h' hs := h' (h hs)
  overlook _ _ _ _ _ h := h
  acquired l name file s := by
    rintro ⟨package, hentry⟩
    exact ⟨package, (l.grows_acquire s.installed name file s.cache).kept hentry⟩
  written _ _ _ h := h
  stored _ _ h := h
  rendered _ _ _ h := h

instance : Telling (Stays m) (fun _ => True) where
  entered _ _ h := h
  rendered _ _ _ h := h
  used _ hkeeps s _ := hkeeps s

/-- **One step on the modules.**  What is installed makes no difference to a module that is loaded,
and another name leaves or is blocked alone. -/
theorem stays_performModules {change : ModuleStep} (h : change.Spares m.name) :
    Keeps (Stays m) (performModules change) := by
  intro s hs
  obtain ⟨package, hentry⟩ := hs
  cases change with
  | install name body => exact ⟨package, hentry⟩
  | uninstall name => exact ⟨package, hentry⟩
  | unload other =>
    have hne : m.name ≠ other := Ne.symm h
    have hkept : (s.cache.drop other).entries.get? m.name = s.cache.entries.get? m.name := by
      rw [ModuleCache.drop, Dict.get?_erase, if_neg hne]
    exact ⟨package, hkept.trans hentry⟩
  | block other =>
    have hne : m.name ≠ other := Ne.symm h
    have hkept : (s.cache.block other).entries.get? m.name = s.cache.entries.get? m.name := by
      rw [ModuleCache.block, Dict.get?_put, if_neg hne]
    exact ⟨package, hkept.trans hentry⟩

/-- A loader that is asked keeps what is loaded. -/
theorem stays_asked (a : Asking) : Stays m a.now a.after := by
  obtain ⟨l, name, file, errand, now⟩ := a
  cases errand with
  | require => exact keeps_require l name file now
  | tryRequire => exact keeps_tryRequire l name file now
  | load ref => exact keeps_loadLibrary l name file ref now

/-- **A run of askings**: what is loaded at the start is loaded whenever a loader is asked. -/
theorem holds_of_linked {askings : List Asking} (hlinked : Linked (Stays m) s askings after)
    (hs : s.Holds m) : ∀ b ∈ askings, b.now.Holds m := by
  induction askings generalizing s with
  | nil => exact fun _ hmem => absurd hmem List.not_mem_nil
  | cons a rest ih =>
    obtain ⟨hnow, hrest⟩ := hlinked
    have ha : a.now.Holds m := hnow hs
    exact List.forall_mem_cons.2 ⟨ha, ih hrest (stays_asked a ha)⟩

end Session

/-! ### A module that is given -/

namespace Asking

open Session

variable {a : Asking} {m : Module}

/-- The loader imports the module and gives it. -/
def Gives (a : Asking) (m : Module) : Prop :=
  match a.errand with
  | .require => ((require a.loader a.name a.file).run a.now).1 = .ok m
  | .tryRequire => ((tryRequire a.loader a.name a.file).run a.now).1 = .ok (.success m)
  | .load ref =>
    (a.now.contents ref).get? a.name = none ∧
      ((loadLibrary a.loader a.name a.file ref).run a.now).1 = .ok (.module m)

/-- However the loader is asked for the name at this time, it gives the module, and no body is run:
the cache, which counts the runs of all bodies, stays as it is. -/
structure Reuses (a : Asking) (m : Module) : Prop where
  required : (require a.loader a.name a.file).run a.now =
    (.ok m, { a.now with log := a.now.log ++ [.dependencyLoaded a.name a.file] })
  tried : (tryRequire a.loader a.name a.file).run a.now = (.ok (.success m), a.now)
  loaded : ∀ ref, (a.now.contents ref).get? a.name = none →
    ((loadLibrary a.loader a.name a.file ref).run a.now).1 = .ok (.module m)
  cache : a.after.cache = a.now.cache

/-- A loader that gives a module has imported it. -/
theorem Gives.acquired (h : a.Gives m) :
    (a.loader.acquire a.now.installed a.name a.file a.now.cache).1 = .ok m ∧
      a.after.cache = (a.loader.acquire a.now.installed a.name a.file a.now.cache).2 := by
  obtain ⟨l, name, file, errand, now⟩ := a
  cases errand with
  | require =>
    have hrun : ((require l name file).run now).1 = .ok m := h
    rw [run_require] at hrun
    refine ⟨mapError_eq_ok_iff.1 hrun, ?_⟩
    show ((require l name file).run now).2.cache = _
    rw [run_require]
  | tryRequire =>
    have hrun : ((tryRequire l name file).run now).1 = .ok (.success m) := h
    rw [run_tryRequire] at hrun
    refine ⟨Loader.tried_eq_success_iff.1 (mapError_eq_ok_iff.1 hrun), ?_⟩
    show ((tryRequire l name file).run now).2.cache = _
    rw [run_tryRequire]
  | load ref =>
    obtain ⟨hnone, hrun⟩ : (now.contents ref).get? name = none ∧
      ((loadLibrary l name file ref).run now).1 = .ok (.module m) := h
    show _ ∧ ((loadLibrary l name file ref).run now).2.cache = _
    rw [run_loadLibrary_absent l name file ref hnone, run_require] at hrun ⊢
    rcases hacq : (l.acquire now.installed name file now.cache).1 with fault | m'
    · rw [hacq] at hrun
      cases hrun
    · rw [hacq] at hrun
      cases hrun
      exact ⟨rfl, rfl⟩

/-- **A module that is given is loaded**, under the absolute name that was asked for. -/
theorem Gives.holds (h : a.Gives m) : a.absolute = .ok m.name ∧ a.after.Holds m := by
  obtain ⟨hok, hcache⟩ := h.acquired
  obtain ⟨habs, package, hentry⟩ := Loader.loaded_of_acquire hok
  rw [← hcache] at hentry
  exact ⟨habs, package, hentry⟩

/-- **A module that is loaded is given**, to every loader whose name comes to its absolute name. -/
theorem reuses_of_holds (habs : a.absolute = .ok m.name) (h : a.now.Holds m) : a.Reuses m := by
  obtain ⟨package, hentry⟩ := h
  have hacq : a.loader.acquire a.now.installed a.name a.file a.now.cache = (.ok m, a.now.cache) :=
    Loader.acquire_of_loaded habs hentry
  have hrequired : (require a.loader a.name a.file).run a.now =
      (.ok m, { a.now with log := a.now.log ++ [.dependencyLoaded a.name a.file] }) := by
    rw [run_require, hacq]
    rfl
  have htried : (tryRequire a.loader a.name a.file).run a.now = (.ok (.success m), a.now) := by
    rw [run_tryRequire, hacq]
    show (_, { a.now with log := a.now.log ++ [] }) = _
    rw [List.append_nil]
    rfl
  refine ⟨hrequired, htried, ?_, ?_⟩
  · intro ref hnone
    rw [run_loadLibrary_absent _ _ _ ref hnone, hrequired]
  · unfold after
    cases a.errand with
    | require => rw [hrequired]
    | tryRequire => rw [htried]
    | load ref =>
      -- what the store has is given from there, and anything else is required
      rcases hheld : (a.now.contents ref).get? a.name with _ | library
      · show ((loadLibrary a.loader a.name a.file ref).run a.now).2.cache = _
        rw [run_loadLibrary_absent _ _ _ ref hheld, hrequired]
        rfl
      · show ((loadLibrary a.loader a.name a.file ref).run a.now).2.cache = _
        rw [run_loadLibrary_found _ _ _ ref hheld]

end Asking

namespace Session

/-! ### From asking to asking -/

/-- **A module stays the same.**  Once a loader has given a module, whoever asks any loader for it
later, in the rest of that step or in steps after it, gets that very module, and no body is run:
under whatever name and by whatever loader, as long as the name comes to the same absolute name.
The steps in between may do anything but unload or block this name: they may import modules whose
bodies fail, unload or block the packages around it, and change what is installed under its name. -/
theorem module_stays_the_same {s : Session} {r : Request} {rest : List Request}
    {earlier later : List Asking} {a : Asking} {m : Module}
    (hasked : stepAskings r.step { s with log := [] } = earlier ++ a :: later) (hgives : a.Gives m)
    (hspares : ∀ r' ∈ rest, ∀ change, r'.step = .modules change → change.Spares m.name) :
    a.absolute = .ok m.name ∧
      ∀ b ∈ later ++ allAskings rest (answer r s).2, b.absolute = .ok m.name → b.Reuses m := by
  obtain ⟨habs, hheld⟩ := hgives.holds
  refine ⟨habs, ?_⟩
  -- a step on the modules asks no loader
  have hmodules : ∀ change, r.step = .modules change →
      Keeps (Stays m) (performModules change) := by
    intro change hstep
    rw [hstep] at hasked
    exact absurd hasked.symm (List.append_ne_nil_of_right_ne_nil _ (List.cons_ne_nil _ _))
  have hstep : Linked (Stays m) { s with log := [] } (earlier ++ a :: later) (answer r s).2 := by
    have htells := tells_serve r hmodules { s with log := [] } fun _ _ => trivial
    rw [hasked] at htells
    exact htells
  have hrest : Linked (Stays m) (answer r s).2 (allAskings rest (answer r s).2)
      (afterAll rest (answer r s).2) := by
    refine linked_allAskings ?_ fun _ _ => trivial
    intro r' hmem change hchange
    exact stays_performModules (hspares r' hmem change hchange)
  have hlinked := hstep.split.2.append hrest
  intro b hmem habs'
  exact Asking.reuses_of_holds habs' (holds_of_linked hlinked hheld b hmem)

/-- A package, a module in it, and another one that imports that module and then fails. -/
def failingPackage : Installed :=
  Dict.ofList [("app", ⟨true, [], none⟩), ("app.core", ⟨false, [], none⟩),
    ("app.top", ⟨false, ["app.core"], some (.raised .valueError [])⟩)]

/-- The module is required by its absolute name. -/
def coreRequest : Request := ⟨.loader "default_loader" (.require "app.core" none), none⟩

/-- A module that imports it fails, its package leaves the cache and is blocked, and something else
is installed under its name.  Then it is required again, by its relative name. -/
def changingRequests : List Request :=
  [⟨.loader "default_loader" (.require "app.top" none), none⟩,
    ⟨.modules (.unload "app"), none⟩, ⟨.modules (.block "app"), none⟩,
    ⟨.modules (.uninstall "app.core"), none⟩,
    ⟨.modules (.install "app.core" ⟨true, ["app.top"], some (.raised .typeError [])⟩), none⟩,
    ⟨.newLoader (some (.object [("package", .str "app")])), some "inner"⟩,
    ⟨.loader "inner" (.require ".core" none), none⟩]

/-- The module that was given first is given again. -/
theorem core_stays_the_same :
    ∃ first failed again : Asking,
      stepAskings coreRequest.step (initial failingPackage .still) = [first] ∧
      first.Gives ⟨"app.core", 1⟩ ∧
      allAskings changingRequests (answer coreRequest (initial failingPackage .still)).2 =
        [failed, again] ∧
      ((require failed.loader failed.name failed.file).run failed.now).1 =
        .error (.fault (.raised .valueError [])) ∧
      again.name = ".core" ∧ again.Reuses ⟨"app.core", 1⟩ := by
  have hfirst : (stepAskings coreRequest.step (initial failingPackage .still)).map (fun a =>
      (a.errand, ((require a.loader a.name a.file).run a.now).1)) =
      [(.require, .ok ⟨"app.core", 1⟩)] := by
    decide +kernel
  have hlater : (allAskings changingRequests
      (answer coreRequest (initial failingPackage .still)).2).map (fun a =>
        (a.name, a.absolute, ((require a.loader a.name a.file).run a.now).1)) =
      [("app.top", .ok "app.top", .error (.fault (.raised .valueError []))),
        (".core", .ok "app.core", .ok ⟨"app.core", 1⟩)] := by
    decide +kernel
  obtain ⟨first, hone⟩ : ∃ first,
      stepAskings coreRequest.step (initial failingPackage .still) = [first] :=
    List.length_eq_one_iff.1 (by simpa using congrArg List.length hfirst)
  obtain ⟨failed, again, htwo⟩ : ∃ failed again,
      allAskings changingRequests (answer coreRequest (initial failingPackage .still)).2 =
        [failed, again] :=
    List.length_eq_two.1 (by simpa using congrArg List.length hlater)
  rw [hone] at hfirst
  rw [htwo] at hlater
  simp only [List.map_cons, List.map_nil, List.cons.injEq, Prod.mk.injEq, and_true]
    at hfirst hlater
  obtain ⟨herrand, hrun⟩ := hfirst
  obtain ⟨⟨-, -, hfailed⟩, hname, habs, -⟩ := hlater
  have hgives : first.Gives ⟨"app.core", 1⟩ := by
    rw [Asking.Gives, herrand]
    exact hrun
  have hspares : ∀ r ∈ changingRequests, ∀ change, r.step = .modules change →
      change.Spares "app.core" := by
    simp [changingRequests, ModuleStep.Spares]
  have hasked : stepAskings coreRequest.step { initial failingPackage .still with log := [] } =
      [] ++ first :: [] := hone
  obtain ⟨-, hsame⟩ := module_stays_the_same hasked hgives hspares
  refine ⟨first, failed, again, hone, hgives, htwo, hfailed, hname, hsame again ?_ habs⟩
  rw [htwo]
  simp

end Session

end AssetPipeline
