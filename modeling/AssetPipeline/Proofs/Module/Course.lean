/-
AssetPipeline/Proofs/Module/Course.lean

The course of an import, by rules.

Importing is a recursion: a module is brought into the cache after the package around it, and its
body imports further modules, maybe in circles.  The rules say what is done and what becomes of the
cache, with all modules installed all the time; the bodies that are started, and how each of them
ends, are written down in order.  A finite derivation by these rules is an import that ends.

`importName` runs each body against the installed modules without its own, which is what makes the
recursion shrink.  That makes no difference: a module whose body runs is in the cache, and a name in
the cache is not looked up among the installed ones (`Agree`).

Main statements: `course_importName`, by which every import ends, as `importName` says; and
`Course.unique`, by which the rules leave no choice.
-/
import AssetPipeline.Proofs.Module.Chain
import AssetPipeline.Proofs.Module.Growth

namespace AssetPipeline

open ModuleName

/-- What happens to the body of a module. -/
inductive BodyEvent where
  | started (name : String)
  | completed (name : String)
  | failed (name : String)
  deriving DecidableEq

/-- What is done in the course of an import. -/
inductive Task where
  /-- Have a module in the cache. -/
  | find (name : String)
  /-- Have the package around a module in the cache. -/
  | enter (name : String)
  /-- Load a module that is not in the cache. -/
  | load (name : String)
  /-- Run a body: first its imports, then it may fail. -/
  | body (imports : List String) (failure : Option Fault)

/-- Whether something was successful, without what it gave. -/
def verdict {α : Type} : Except Fault α → Except Fault Unit
  | .ok _ => .ok ()
  | .error fault => .error fault

/-- The module lies in no package, or in one that is loaded. -/
def ModuleCache.HasRoom (c : ModuleCache) (name : String) : Prop :=
  ∀ parent, parent? name = some parent → c.hasPackage parent = true

/-- The rules of importing: `Course installed task c events outcome after` says that the task, begun
with the cache `c`, ends with this outcome and the cache `after`, and which bodies are run. -/
inductive Course (installed : Installed) :
    Task → ModuleCache → List BodyEvent → Except Fault Unit → ModuleCache → Prop
  | cached {name : String} {c : ModuleCache} {entry : CacheEntry} :
      c.entries.get? name = some entry →
      Course installed (.find name) c [] (verdict (entry.answer name)) c
  | unentered {name : String} {c after : ModuleCache} {events : List BodyEvent} {fault : Fault} :
      c.entries.get? name = none → Course installed (.enter name) c events (.error fault) after →
      Course installed (.find name) c events (.error fault) after
  /-- The body of the package has brought the module in. -/
  | brought {name : String} {c middle : ModuleCache} {events : List BodyEvent}
      {entry : CacheEntry} :
      c.entries.get? name = none → Course installed (.enter name) c events (.ok ()) middle →
      middle.entries.get? name = some entry →
      Course installed (.find name) c events (verdict (entry.answer name)) middle
  | noRoom {name parent : String} {c middle : ModuleCache} {events : List BodyEvent} :
      c.entries.get? name = none → Course installed (.enter name) c events (.ok ()) middle →
      middle.entries.get? name = none → parent? name = some parent →
      middle.hasPackage parent = false →
      Course installed (.find name) c events (.error (.moduleMissing (.notPackage name parent)))
        middle
  | loaded {name : String} {c middle after : ModuleCache} {events events' : List BodyEvent}
      {outcome : Except Fault Unit} :
      c.entries.get? name = none → Course installed (.enter name) c events (.ok ()) middle →
      middle.entries.get? name = none → middle.HasRoom name →
      Course installed (.load name) middle events' outcome after →
      Course installed (.find name) c (events ++ events') outcome after
  | root {name : String} {c : ModuleCache} :
      parent? name = none → Course installed (.enter name) c [] (.ok ()) c
  | entered {name parent : String} {c : ModuleCache} {entry : CacheEntry} :
      parent? name = some parent → c.entries.get? parent = some entry →
      Course installed (.enter name) c [] (.ok ()) c
  | parentFirst {name parent : String} {c after : ModuleCache} {events : List BodyEvent}
      {outcome : Except Fault Unit} :
      parent? name = some parent → c.entries.get? parent = none →
      Course installed (.find parent) c events outcome after →
      Course installed (.enter name) c events outcome after
  | undeclared {name : String} {c : ModuleCache} :
      installed.get? name = none →
      Course installed (.load name) c [] (.error (.moduleMissing (.undeclared name))) c
  /-- The module is taken out of the cache again. -/
  | failed {name : String} {body : ModuleBody} {c after : ModuleCache} {events : List BodyEvent}
      {fault : Fault} :
      installed.get? name = some body → c.entries.get? name = none →
      Course installed (.body body.imports body.failure) (c.start name body.package) events
        (.error fault) after →
      Course installed (.load name) c (.started name :: events ++ [.failed name]) (.error fault)
        (after.drop name)
  | completed {name : String} {body : ModuleBody} {c after : ModuleCache}
      {events : List BodyEvent} :
      installed.get? name = some body → c.entries.get? name = none →
      Course installed (.body body.imports body.failure) (c.start name body.package) events
        (.ok ()) after →
      Course installed (.load name) c (.started name :: events ++ [.completed name]) (.ok ()) after
  | done {c : ModuleCache} : Course installed (.body [] none) c [] (.ok ()) c
  | raised {c : ModuleCache} {fault : Fault} :
      Course installed (.body [] (some fault)) c [] (.error fault) c
  | meaningless {request : String} {rest : List String} {failure : Option Fault}
      {c : ModuleCache} {fault : Fault} :
      absoluteName none request = .error fault →
      Course installed (.body (request :: rest) failure) c [] (.error fault) c
  | stopped {request absolute : String} {rest : List String} {failure : Option Fault}
      {c after : ModuleCache} {events : List BodyEvent} {fault : Fault} :
      absoluteName none request = .ok absolute →
      Course installed (.find absolute) c events (.error fault) after →
      Course installed (.body (request :: rest) failure) c events (.error fault) after
  | continued {request absolute : String} {rest : List String} {failure : Option Fault}
      {c middle after : ModuleCache} {events events' : List BodyEvent}
      {outcome : Except Fault Unit} :
      absoluteName none request = .ok absolute →
      Course installed (.find absolute) c events (.ok ()) middle →
      Course installed (.body rest failure) middle events' outcome after →
      Course installed (.body (request :: rest) failure) c (events ++ events') outcome after

variable {installed full : Installed} {c after : ModuleCache} {name : String}

/-! ### The rules leave no choice -/

/-- **A task has one course only.** -/
theorem Course.unique {task : Task} {events events' : List BodyEvent}
    {outcome outcome' : Except Fault Unit} {after' : ModuleCache}
    (h : Course installed task c events outcome after)
    (h' : Course installed task c events' outcome' after') :
    events' = events ∧ outcome' = outcome ∧ after' = after := by
  -- no two rules for one task have conditions that hold together
  induction h generalizing events' outcome' after' with
  | cached he => cases h' <;> simp_all
  | unentered hn _ ih => cases h' <;> grind
  | brought hn _ he ih => cases h' <;> grind
  | noRoom hn _ hn' hp hpkg ih => cases h' <;> grind [ModuleCache.HasRoom]
  | loaded hn _ hn' hroom _ ih ih' => cases h' <;> grind [ModuleCache.HasRoom]
  | root hp => cases h' <;> simp_all
  | entered hp he => cases h' <;> simp_all
  | parentFirst hp hn _ ih => cases h' <;> grind
  | undeclared hi => cases h' <;> simp_all
  | failed hb hn _ ih => cases h' <;> grind
  | completed hb hn _ ih => cases h' <;> grind
  | done => cases h'; simp
  | raised => cases h'; simp
  | meaningless hm => cases h' <;> simp_all
  | stopped hm _ ih => cases h' <;> grind
  | continued hm _ _ ih ih' => cases h' <;> grind

/-! ### What is installed while bodies run -/

/-- Both have the same modules installed under the names that are not in the cache. -/
def Agree (full installed : Installed) (c : ModuleCache) : Prop :=
  ∀ name, c.entries.get? name = none → full.get? name = installed.get? name

theorem Agree.of_grows (h : Agree full installed c) (hg : Grows installed c after) :
    Agree full installed after := fun name hn => h name (hg.absent hn)

/-- The module of a running body is in the cache, so it need not be installed any more. -/
theorem Agree.start (h : Agree full installed c) (package : Bool) :
    Agree full (installed.erase name) (c.start name package) := by
  intro other hother
  simp only [ModuleCache.start, Dict.get?_put] at hother
  split at hother
  · cases hother
  · next hne => rw [Dict.get?_erase, if_neg hne, h other hother]

/-! ### Every import ends -/

section
variable {load : Load}

/-- Once the package around it is in the cache, a module is loaded, or there is no room for it. -/
theorem course_loadInside {middle : ModuleCache} {parent : String} {events : List BodyEvent}
    (hn : c.entries.get? name = none) (hp : parent? name = some parent)
    (henter : Course full (.enter name) c events (.ok ()) middle)
    (hn' : middle.entries.get? name = none)
    (hload : ∃ events', Course full (.load name) middle events' (verdict (load name middle).1)
      (load name middle).2) :
    ∃ events', Course full (.find name) c events' (verdict (loadInside load parent name middle).1)
      (loadInside load parent name middle).2 := by
  unfold loadInside
  split
  · next hpkg =>
    have hroom : middle.HasRoom name := by
      intro parent' hp'
      rw [hp] at hp'
      cases hp'
      exact hpkg
    obtain ⟨events', hload⟩ := hload
    exact ⟨events ++ events', .loaded hn henter hn' hroom hload⟩
  · next hpkg => exact ⟨events, .noRoom hn henter hn' hp (Bool.eq_false_iff.2 hpkg)⟩

/-- The way to a module follows the rules if loading does. -/
theorem course_importWithin
    (hproper : ∀ name c, c.entries.get? name = none → Proper installed name c (load name c))
    (hload : ∀ name c, c.entries.get? name = none → Agree full installed c →
      ∃ events, Course full (.load name) c events (verdict (load name c).1) (load name c).2)
    {around : List String} (ha : ancestors name = around) (h : Agree full installed c) :
    ∃ events, Course full (.find name) c events (verdict (importWithin load around name c).1)
      (importWithin load around name c).2 := by
  induction around generalizing name c with
  | nil =>
    unfold importWithin
    split
    · next entry he => exact ⟨[], .cached he⟩
    · next hn =>
      -- nothing lies around the module, so there is room for it
      have hroot := parent_eq_none_of_ancestors ha
      have hroom : c.HasRoom name := fun parent hp => by
        rw [hroot] at hp
        cases hp
      obtain ⟨events, hl⟩ := hload name c hn h
      exact ⟨[] ++ events, .loaded hn (.root hroot) hn hroom hl⟩
  | cons parent around ih =>
    obtain ⟨hp, ha'⟩ := parent_of_ancestors ha
    unfold importWithin
    split
    · next entry he => exact ⟨[], .cached he⟩
    · next hn =>
      split
      · next entry he => exact course_loadInside hn hp (.entered hp he) hn (hload name c hn h)
      · next hparent =>
        -- the package comes first, and its body may bring the module in
        have hgrows := (importWithin_proper hproper around parent c).grows
        obtain ⟨events, hfind⟩ := ih ha' h
        split
        · next fault after hr =>
          rw [hr] at hfind
          exact ⟨events, .unentered hn (.parentFirst hp hparent hfind)⟩
        · next m middle hr =>
          rw [hr] at hgrows hfind
          have henter : Course full (.enter name) c events (.ok ()) middle :=
            .parentFirst hp hparent hfind
          split
          · next entry he => exact ⟨events, .brought hn henter he⟩
          · next hn' =>
            exact course_loadInside hn hp henter hn' (hload name middle hn' (h.of_grows hgrows))

/-- What a body comes to that has done its imports. -/
def finish (failure : Option Fault) : Except Fault Unit → Except Fault Unit
  | .error fault => .error fault
  | .ok () =>
    match failure with
    | some fault => .error fault
    | none => .ok ()

/-- The imports of a body follow the rules if each of them does. -/
theorem course_runImports (hgrows : ∀ name c, Grows installed c (load name c).2)
    (hload : ∀ name c, Agree full installed c →
      ∃ events, Course full (.find name) c events (verdict (load name c).1) (load name c).2)
    (failure : Option Fault) (imports : List String) (h : Agree full installed c) :
    ∃ events, Course full (.body imports failure) c events
      (finish failure (runImports load imports c).1) (runImports load imports c).2 := by
  induction imports generalizing c with
  | nil =>
    cases failure with
    | none => exact ⟨[], .done⟩
    | some fault => exact ⟨[], .raised⟩
  | cons request rest ih =>
    unfold runImports
    split
    · next fault hm => exact ⟨[], .meaningless hm⟩
    · next absolute hm =>
      have hg := hgrows absolute c
      obtain ⟨events, hfind⟩ := hload absolute c h
      split
      · next fault after hr =>
        rw [hr] at hfind
        exact ⟨events, .stopped hm hfind⟩
      · next m middle hr =>
        rw [hr] at hg hfind
        obtain ⟨events', hrest⟩ := ih (h.of_grows hg)
        exact ⟨events ++ events', .continued hm hfind hrest⟩

end

/-- A module is loaded by the rules if the imports of its body follow them. -/
theorem course_loadModule
    (ih : ∀ name body, installed.get? name = some body → ∀ other c,
      Agree full (installed.erase name) c → ∃ events, Course full (.find other) c events
        (verdict (importName (installed.erase name) other c).1)
        (importName (installed.erase name) other c).2)
    (hn : c.entries.get? name = none) (h : Agree full installed c) :
    ∃ events, Course full (.load name) c events (verdict (loadModule installed name c).1)
      (loadModule installed name c).2 := by
  unfold loadModule
  split
  · next hi => exact ⟨[], .undeclared ((h name hn).trans hi)⟩
  · next body hi =>
    have hfull : full.get? name = some body := (h name hn).trans hi
    -- while the body runs, its module is in the cache and need not be installed
    obtain ⟨events, hbody⟩ := course_runImports
      (fun other c => (importName_proper (installed.erase name) other c).grows)
      (ih name body hi) body.failure body.imports (h.start body.package)
    unfold loadBody
    split
    · next fault after hr =>
      rw [hr] at hbody
      exact ⟨_, .failed hfull hn hbody⟩
    · next after hr =>
      rw [hr] at hbody
      split
      · next fault hfailure =>
        have hfinish : finish body.failure (.ok ()) = .error fault := by rw [hfailure, finish]
        exact ⟨_, .failed hfull hn (hfinish ▸ hbody)⟩
      · next hfailure =>
        have hfinish : finish body.failure (.ok ()) = .ok () := by rw [hfailure, finish]
        exact ⟨_, .completed hfull hn (hfinish ▸ hbody)⟩

/-- **Every import ends**, whatever is installed and whatever is in the cache: the rules lead to the
outcome and to the cache that `importName` gives. -/
theorem course_importName (installed : Installed) (name : String) (c : ModuleCache) :
    ∃ events, Course installed (.find name) c events (verdict (importName installed name c).1)
      (importName installed name c).2 := by
  have h := importName_induction (P := fun installed name c r => ∀ full, Agree full installed c →
    ∃ events, Course full (.find name) c events (verdict r.1) r.2) ?_ installed name c
  · exact h installed fun _ _ => rfl
  · intro installed ih name c full hagree
    refine course_importWithin (fun name c hn => loadModule_proper (fun name _ _ other c =>
      importName_proper (installed.erase name) other c) name c hn) ?_ rfl hagree
    intro name c hn hagree
    exact course_loadModule (fun name body hb other c => ih name body hb other c full) hn hagree

end AssetPipeline
