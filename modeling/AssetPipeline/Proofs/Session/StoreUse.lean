/-
AssetPipeline/Proofs/Session/StoreUse.lean

How the programs of a session use the stores of libraries.

Stores are emptied, libraries are written, and dependencies are loaded.  Which of this a
program does, and to which stores, is read off its run, action by action (`actionUses`,
`bodyUses`, `renderUses`, `stepUses`).  A use says what it makes of the content of its store
(`UseStep`), and so does one use after another (`Replays`).

Such uses are those of a program if they make of every store what the program makes of it
(`UsesStores`).  What leaves all stores alone has no uses, and one program after another has
those of both.

Main statements: `uses_loadLibrary` for dependencies, `uses_render` for renders,
`uses_performStep` for one step and `replays_allUses` for the steps of a session.
-/
import AssetPipeline.Proofs.Loader.Report
import AssetPipeline.Proofs.Session.Engines

namespace AssetPipeline

/-- A use of a store of libraries. -/
inductive Use where
  /-- The store is made, or cleared. -/
  | emptied
  /-- A library is written, whatever the store had under its name. -/
  | written (name : String) (library : Object)
  /-- A dependency is asked for by a loader, which gives this library. -/
  | loaded (l : Loader) (name : String) (library : Object)
  deriving DecidableEq

/-- What a use makes of the content of its store.  A dependency that the store has is given from
there; any other one is imported under its absolute name, and stored. -/
inductive UseStep (content : Dict String Object) : Use → Dict String Object → Prop
  | emptied : UseStep content .emptied Dict.empty
  | written (name : String) (library : Object) :
    UseStep content (.written name library) (content.put name library)
  | found {l : Loader} {name : String} {library : Object} :
    content.get? name = some library → UseStep content (.loaded l name library) content
  | imported {l : Loader} {name : String} {m : Module} :
    content.get? name = none → absoluteName l.config.anchor name = .ok m.name →
      UseStep content (.loaded l name (.module m)) (content.put name (.module m))

/-- What one use after another makes of the content of a store. -/
def Replays : Dict String Object → List Use → Dict String Object → Prop
  | content, [], after => after = content
  | content, use :: rest, after => ∃ next, UseStep content use next ∧ Replays next rest after

theorem Replays.append {content next after : Dict String Object} {uses uses' : List Use}
    (h : Replays content uses next) (h' : Replays next uses' after) :
    Replays content (uses ++ uses') after := by
  induction uses generalizing content with
  | nil =>
    cases h
    exact h'
  | cons use rest ih =>
    obtain ⟨middle, hstep, hrest⟩ := h
    exact ⟨middle, hstep, ih hrest⟩

theorem Replays.split {content after : Dict String Object} {uses uses' : List Use}
    (h : Replays content (uses ++ uses') after) :
    ∃ next, Replays content uses next ∧ Replays next uses' after := by
  induction uses generalizing content with
  | nil => exact ⟨content, rfl, h⟩
  | cons use rest ih =>
    obtain ⟨middle, hstep, hrest⟩ := h
    obtain ⟨next, hbefore, hafter⟩ := ih hrest
    exact ⟨next, ⟨middle, hstep, hbefore⟩, hafter⟩

theorem replays_singleton {content after : Dict String Object} {use : Use} :
    Replays content [use] after ↔ UseStep content use after := by
  constructor
  · rintro ⟨next, hstep, rfl⟩
    exact hstep
  · intro hstep
    exact ⟨after, hstep, rfl⟩

namespace Session

variable {α β : Type} {s after : Session}

/-- The content of the store with this number. -/
def storeAt (s : Session) (store : Nat) : Dict String Object := s.libraries.getD store Dict.empty

/-- The uses of one store, given those of all. -/
def usesAt (store : Nat) (uses : List (Nat × Use)) : List Use :=
  (uses.filter fun use => use.1 == store).map Prod.snd

@[simp] theorem usesAt_nil (store : Nat) : usesAt store [] = [] := rfl

theorem usesAt_append (store : Nat) (uses uses' : List (Nat × Use)) :
    usesAt store (uses ++ uses') = usesAt store uses ++ usesAt store uses' := by
  simp only [usesAt, List.filter_append, List.map_append]

theorem usesAt_singleton (store id : Nat) (use : Use) :
    usesAt store [(id, use)] = if id = store then [use] else [] := by
  by_cases h : id = store
  · simp [usesAt, h]
  · simp [usesAt, h]

/-! ### Leaving stores alone -/

/-- The stores of libraries are as before. -/
def SameStores (s after : Session) : Prop := after.libraries = s.libraries

instance : Lenient SameStores where
  refl _ := rfl
  trans _ _ _ h h' := Eq.trans h' h
  overlook _ _ _ _ _ := rfl
  acquired _ _ _ _ := rfl
  written _ _ _ := rfl

theorem stores_register (id : Nat) (name : String) (candidate : Candidate)
    (extensions : List String) : Keeps SameStores (register id name candidate extensions) := by
  intro s
  rw [run_register]
  cases (s.registry id).accept name candidate <;> rfl

/-! ### The uses of a run -/

/-- A program that uses no store. -/
def noUses : Session → List (Nat × Use) := fun _ => []

/-- The uses of one program after another: those of the second if the first does not stop. -/
def bindUses (p : Run α) (first : Session → List (Nat × Use))
    (second : α → Session → List (Nat × Use)) (s : Session) : List (Nat × Use) :=
  first s ++
    match p.run s with
    | (.ok a, after) => second a after
    | (.error _, _) => []

/-- Whether the first program stops or not, one without uses adds nothing. -/
theorem bindUses_noUses (p : Run α) (first : Session → List (Nat × Use)) :
    (bindUses p first fun _ => noUses) = first := by
  funext s
  rw [bindUses]
  rcases p.run s with ⟨_ | _, _⟩ <;> exact List.append_nil _

/-- The uses are what the program does to the stores. -/
def UsesStores (p : Run α) (uses : Session → List (Nat × Use)) : Prop :=
  ∀ s store, Replays (s.storeAt store) (usesAt store (uses s)) ((p.run s).2.storeAt store)

theorem Keeps.usesNothing {p : Run α} (h : Keeps SameStores p) : UsesStores p noUses := by
  intro s store
  have hsame : (p.run s).2.libraries = s.libraries := h s
  show (p.run s).2.libraries.getD store Dict.empty = _
  rw [hsame]
  rfl

section
variable {p : Run α} {f : α → Run β} {first : Session → List (Nat × Use)}
  {second : α → Session → List (Nat × Use)}

/-- One program after another has the uses of both. -/
theorem UsesStores.bind (hp : UsesStores p first) (hf : ∀ a, UsesStores (f a) (second a)) :
    UsesStores (p >>= f) (bindUses p first second) := by
  intro s store
  have h := hp s store
  rcases hrun : p.run s with ⟨halt | a, after⟩
  · rw [hrun] at h
    rw [run_bind_error hrun, bindUses, hrun, List.append_nil]
    exact h
  · rw [hrun] at h
    rw [run_bind_ok hrun, bindUses, hrun, usesAt_append]
    exact h.append (hf a after store)

/-- What leaves the stores alone adds nothing where it comes first. -/
theorem UsesStores.after_same (hp : Keeps SameStores p) (hf : ∀ a, UsesStores (f a) (second a)) :
    UsesStores (p >>= f) (bindUses p noUses second) :=
  hp.usesNothing.bind hf

/-- Nor does it where it comes last. -/
theorem UsesStores.before_same (hp : UsesStores p first) (hf : ∀ a, Keeps SameStores (f a)) :
    UsesStores (p >>= f) first := by
  have h := hp.bind fun a => (hf a).usesNothing
  rwa [bindUses_noUses] at h

/-- Going on after a program, whether it stops or not. -/
theorem UsesStores.observe (hp : UsesStores p first) : UsesStores (observe p) first := by
  intro s store
  rw [run_observe]
  exact hp s store

end

/-! ### One store -/

/-- A store is made to have another content. -/
theorem storeAt_put {content : Dict String Object} {id : Nat}
    (h : after.libraries = s.libraries.put id content) (store : Nat) :
    after.storeAt store = if store = id then content else s.storeAt store := by
  rw [storeAt, h, Dict.getD, Dict.get?_put]
  split <;> rfl

/-- One use of one store, all others being left alone. -/
theorem replays_one {content : Dict String Object} {id : Nat} {use : Use}
    (h : ∀ store, after.storeAt store = if store = id then content else s.storeAt store)
    (huse : UseStep (s.storeAt id) use content) (store : Nat) :
    Replays (s.storeAt store) (usesAt store [(id, use)]) (after.storeAt store) := by
  rw [usesAt_singleton, h store]
  by_cases hid : store = id
  · rw [if_pos hid.symm, if_pos hid, hid]
    exact replays_singleton.2 huse
  · rw [if_neg (Ne.symm hid), if_neg hid]
    rfl

/-- Emptying a store is one use of it. -/
def emptyUses (ref : LibrariesRef) : Session → List (Nat × Use) := fun _ => [(ref.id, .emptied)]

theorem uses_empty (ref : LibrariesRef) : UsesStores (writeStore ref Dict.empty) (emptyUses ref) :=
  fun _ => replays_one (storeAt_put rfl) .emptied

/-- Storing a library is one use of the store. -/
def setUses (ref : LibrariesRef) (name : String) (library : Object) :
    Session → List (Nat × Use) := fun _ => [(ref.id, .written name library)]

theorem uses_setLibrary (ref : LibrariesRef) (name : String) (library : Object) :
    UsesStores (setLibrary ref name library) (setUses ref name library) :=
  fun _ => replays_one (storeAt_put rfl) (.written name library)

theorem uses_newStore (title : String) :
    UsesStores (newStore title) (bindUses freshId noUses fun id => emptyUses ⟨id, title⟩) :=
  .after_same keeps_freshId fun id => (uses_empty ⟨id, title⟩).before_same fun _ => .pure _

/-- The uses of writing several libraries. -/
def setAllUses (ref : LibrariesRef) : List (String × LibraryValue) → Session → List (Nat × Use)
  | [] => noUses
  | (name, value) :: rest =>
    bindUses (evalLibrary value) noUses fun library =>
      bindUses (setLibrary ref name library) (setUses ref name library) fun _ =>
        setAllUses ref rest

theorem uses_setLibraries (ref : LibrariesRef) (writes : List (String × LibraryValue)) :
    UsesStores (setLibraries ref writes) (setAllUses ref writes) := by
  induction writes with
  | nil => exact Keeps.usesNothing (.pure ())
  | cons write rest ih =>
    refine .after_same (views_evalLibrary write.2).keeps fun library => ?_
    exact (uses_setLibrary ref write.1 library).bind fun _ => ih

/-- The uses of clearing a store if asked to. -/
def clearUses (ref : LibrariesRef) (clear : Bool) : Session → List (Nat × Use) :=
  if clear then emptyUses ref else noUses

theorem uses_clearIf (ref : LibrariesRef) (clear : Bool) :
    UsesStores (clearIf ref clear) (clearUses ref clear) := by
  cases clear with
  | true => exact uses_empty ref
  | false => exact Keeps.usesNothing (.pure ())

/-! ### Filling names -/

/-- The uses of filling a name by a program with uses of its own. -/
def ensureUses (ref : LibrariesRef) (name : String) (make : Run Object)
    (makeUses : Session → List (Nat × Use)) : Session → List (Nat × Use) :=
  bindUses (readStore ref) noUses fun content =>
    if content.contains name then noUses
    else bindUses make makeUses fun library => setUses ref name library

theorem uses_ensureLibrary {make : Run Object} {makeUses : Session → List (Nat × Use)}
    (ref : LibrariesRef) (name : String) (h : UsesStores make makeUses) :
    UsesStores (ensureLibrary ref name make) (ensureUses ref name make makeUses) := by
  refine .after_same (views_readStore ref).keeps fun content => ?_
  cases hcontains : content.contains name with
  | true => exact Keeps.usesNothing (views_getLibrary ref name).keeps
  | false =>
    refine (h.bind fun library => ?_)
    exact (uses_setLibrary ref name library).before_same fun _ =>
      (views_getLibrary ref name).keeps

mutual
/-- The uses of a factory. -/
def factoryUses (ref : LibrariesRef) : Factory → Session → List (Nat × Use)
  | .make clear writes fills _ _ =>
    bindUses (clearIf ref clear) (clearUses ref clear) fun _ =>
      bindUses (setLibraries ref writes) (setAllUses ref writes) fun _ => fillsUses ref fills
/-- The uses of filling names from factories. -/
def fillsUses (ref : LibrariesRef) : List (String × Factory) → Session → List (Nat × Use)
  | [] => noUses
  | (name, factory) :: rest =>
    bindUses (ensureLibrary ref name (runFactory ref factory))
      (ensureUses ref name (runFactory ref factory) (factoryUses ref factory)) fun _ =>
        fillsUses ref rest
end

mutual
theorem uses_runFactory (ref : LibrariesRef) :
    ∀ f : Factory, UsesStores (runFactory ref f) (factoryUses ref f)
  | .make clear writes fills failure value => by
    rw [runFactory, factoryUses]
    refine (uses_clearIf ref clear).bind fun _ => ?_
    refine (uses_setLibraries ref writes).bind fun _ => ?_
    refine (uses_runFills ref fills).before_same fun _ => ?_
    exact ((views_raiseIf failure).bind fun _ => views_evalLibrary value).keeps
theorem uses_runFills (ref : LibrariesRef) :
    ∀ fills : List (String × Factory), UsesStores (runFills ref fills) (fillsUses ref fills)
  | [] => by
    rw [runFills, fillsUses]
    exact Keeps.usesNothing (.pure ())
  | (name, factory) :: rest => by
    rw [runFills, fillsUses]
    refine (uses_ensureLibrary ref name (uses_runFactory ref factory)).bind fun _ => ?_
    exact uses_runFills ref rest
end

/-! ### Loading dependencies -/

theorem run_readStore (ref : LibrariesRef) (s : Session) :
    (readStore ref).run s = (.ok (s.contents ref), s) := rfl

section
variable {ref : LibrariesRef} {name : String} {library : Object} {make : Run Object}

theorem run_getLibrary (h : (s.contents ref).get? name = some library) :
    (getLibrary ref name).run s = (.ok library, s) := by
  rw [getLibrary, run_bind_ok (run_readStore ref s), h]
  rfl

/-- The session in which a library has been stored. -/
def stored (s : Session) (ref : LibrariesRef) (name : String) (library : Object) : Session :=
  { s with
    log := s.log ++ [storeEvent (s.contents ref) name library]
    libraries := s.libraries.put ref.id ((s.contents ref).put name library) }

theorem contents_stored : (s.stored ref name library).contents ref =
    (s.contents ref).put name library := by
  rw [contents, stored, Dict.getD, Dict.get?_put, if_pos rfl]
  rfl

theorem run_setLibrary (ref : LibrariesRef) (name : String) (library : Object) (s : Session) :
    (setLibrary ref name library).run s = (.ok (), s.stored ref name library) := rfl

/-- A name that has a library is not filled again. -/
theorem run_ensureLibrary_found (h : (s.contents ref).get? name = some library) :
    (ensureLibrary ref name make).run s = (.ok library, s) := by
  have hcontains : (s.contents ref).contains name = true := by
    rw [Dict.contains, h]
    rfl
  rw [ensureLibrary, run_bind_ok (run_readStore ref s), hcontains]
  exact run_getLibrary h

/-- A name that has none is filled with what is made for it. -/
theorem run_ensureLibrary_made (h : (s.contents ref).get? name = none)
    (hmake : make.run s = (.ok library, after)) :
    (ensureLibrary ref name make).run s = (.ok library, after.stored ref name library) := by
  have hcontains : (s.contents ref).contains name = false := by
    rw [Dict.contains, h]
    rfl
  have hget : ((after.stored ref name library).contents ref).get? name = some library := by
    rw [contents_stored, Dict.get?_put, if_pos rfl]
  rw [ensureLibrary, run_bind_ok (run_readStore ref s), hcontains]
  show (make >>= fun library => setLibrary ref name library >>= fun _ =>
    getLibrary ref name).run s = _
  rw [run_bind_ok hmake, run_bind_ok (run_setLibrary ref name library after)]
  exact run_getLibrary hget

/-- What cannot be made leaves the name without a library. -/
theorem run_ensureLibrary_stopped {halt : Halt} (h : (s.contents ref).get? name = none)
    (hmake : make.run s = (.error halt, after)) :
    (ensureLibrary ref name make).run s = (.error halt, after) := by
  have hcontains : (s.contents ref).contains name = false := by
    rw [Dict.contains, h]
    rfl
  rw [ensureLibrary, run_bind_ok (run_readStore ref s), hcontains]
  show (make >>= fun library => setLibrary ref name library >>= fun _ =>
    getLibrary ref name).run s = _
  rw [run_bind_error hmake]

end

section
variable (l : Loader) (name : String) (file : Option File) (ref : LibrariesRef)

/-- A dependency that the store has is given from there, and nothing else happens. -/
theorem run_loadLibrary_found {library : Object} (h : (s.contents ref).get? name = some library) :
    (loadLibrary l name file ref).run s = (.ok library, s) := run_ensureLibrary_found h

/-- Any other one is required, and the module is stored. -/
theorem run_loadLibrary_absent (h : (s.contents ref).get? name = none) :
    (loadLibrary l name file ref).run s =
      match (require l name file).run s with
      | (.ok m, after) => (.ok (.module m), after.stored ref name (.module m))
      | (.error halt, after) => (.error halt, after) := by
  rcases hrequire : (require l name file).run s with ⟨halt | m, after⟩
  · exact run_ensureLibrary_stopped h (run_bind_error hrequire)
  · exact run_ensureLibrary_made h (run_bind_ok hrequire)

/-- A dependency that is loaded is one use of its store. -/
def loadUses : Session → List (Nat × Use) :=
  bindUses (loadLibrary l name file ref) noUses fun library _ =>
    [(ref.id, .loaded l name library)]

/-- **A dependency is loaded from its store, or into it.** -/
theorem uses_loadLibrary : UsesStores (loadLibrary l name file ref) (loadUses l name file ref) := by
  intro s
  rcases hheld : (s.contents ref).get? name with _ | library
  · have hrun := run_loadLibrary_absent l name file ref hheld
    have hsame : ((require l name file).run s).2.libraries = s.libraries :=
      keeps_require (R := SameStores) l name file s
    rcases hrequire : (require l name file).run s with ⟨halt | m, after⟩
    · rw [hrequire] at hrun hsame
      rw [loadUses, bindUses, hrun]
      intro store
      show after.libraries.getD store Dict.empty = _
      rw [hsame]
      rfl
    · have habs : absoluteName l.config.anchor name = .ok m.name := by
        rw [run_require] at hrequire
        exact (Loader.loaded_of_acquire (mapError_eq_ok_iff.1 (congrArg Prod.fst hrequire))).1
      rw [hrequire] at hrun hsame
      rw [loadUses, bindUses, hrun]
      refine replays_one (storeAt_put ?_) (.imported hheld habs)
      show after.libraries.put ref.id ((after.contents ref).put name (.module m)) = _
      rw [contents, hsame]
      rfl
  · rw [loadUses, bindUses, run_loadLibrary_found l name file ref hheld]
    refine replays_one ?_ (.found hheld)
    intro store
    by_cases hid : store = ref.id
    · rw [if_pos hid, hid]
    · rw [if_neg hid]

end

/-! ### Evaluations and renders -/

section
variable (call : Call) (nested : Nat → String → Payload → Run Payload)
  (nestedUses : Nat → String → Payload → Session → List (Nat × Use))

/-- The uses of an action, those of the class above being `baseUses`. -/
def actionUses (baseUses : Session → List (Nat × Use)) : Action → Session → List (Nat × Use)
  | .loadLibrary name =>
    loadUses call.template.loader name call.template.fileValue call.template.libraries
  | .setLibrary name value =>
    bindUses (evalLibrary value) noUses fun library =>
      setUses call.template.libraries name library
  | .callBase => baseUses
  | .render engines engine data =>
    bindUses (enginesAt engines) noUses fun id =>
      bindUses (evalPayload data) noUses fun data => nestedUses id engine data
  | _ => noUses

/-- The uses of a body, up to the action that ends it. -/
def bodyUses (base : Run Payload) (baseUses : Session → List (Nat × Use)) :
    List Action → Session → List (Nat × Use)
  | [] => noUses
  | .finish _ :: _ => noUses
  | action :: rest =>
    bindUses (doAction call base nested action) (actionUses call nestedUses baseUses action)
      fun _ => bodyUses base baseUses rest

/-- The uses of an evaluation. -/
def classUses : EngineClass → Session → List (Nat × Use)
  | .derived own above =>
    match own.body with
    | some actions =>
      bodyUses call nested nestedUses (evaluateAs call nested above) (classUses above) actions
    | none => classUses above
  | _ => noUses

end

/-- The uses of a render, those of the renders inside it included. -/
def renderUses : (depth engines : Nat) → (engine : String) → Option (Traced File) → Payload →
    Json → Option Bindings → Session → List (Nat × Use)
  | 0, _, _, _, _, _, _ => noUses
  | depth + 1, engines, engine, file, data, context, bindings =>
    bindUses (createTemplate engines engine file data none none) noUses fun t =>
      bindUses readClock noUses fun _ =>
        classUses ⟨t, context, some (bindings.getD [])⟩
          (fun engines engine data =>
            render depth engines engine t.file data context (some (bindings.getD [])))
          (fun engines engine data =>
            renderUses depth engines engine t.file data context (some (bindings.getD []))) t.cls

/-- The uses of the evaluation of a template. -/
def evaluateUses (depth : Nat) (t : Template) (context : Json) (bindings : Option Bindings) :
    Session → List (Nat × Use) :=
  classUses ⟨t, context, bindings⟩
    (fun engines engine data => render depth engines engine t.file data context bindings)
    (fun engines engine data => renderUses depth engines engine t.file data context bindings) t.cls

section
variable (call : Call) {base : Run Payload} {nested : Nat → String → Payload → Run Payload}
  {baseUses : Session → List (Nat × Use)}
  {nestedUses : Nat → String → Payload → Session → List (Nat × Use)}

theorem uses_doAction (hbase : UsesStores base baseUses)
    (hnested : ∀ engines engine data,
      UsesStores (nested engines engine data) (nestedUses engines engine data))
    (action : Action) :
    UsesStores (doAction call base nested action) (actionUses call nestedUses baseUses action) := by
  cases action with
  | loadLibrary name => exact (uses_loadLibrary _ _ _ _).before_same fun _ => keeps_put _ _
  | setLibrary name library =>
    exact .after_same (views_evalLibrary _).keeps fun _ => uses_setLibrary _ _ _
  | callBase => exact hbase.before_same fun _ => keeps_putTraced _ _
  | render engines engine data =>
    refine .after_same (views_enginesAt engines).keeps fun id => ?_
    refine .after_same (keeps_evalPayload data) fun data => ?_
    exact (hnested id engine data).before_same fun _ => keeps_putTraced _ _
  | _ => exact Keeps.usesNothing (keeps_doAction call base nested rfl rfl)

theorem uses_runBody (hbase : UsesStores base baseUses)
    (hnested : ∀ engines engine data,
      UsesStores (nested engines engine data) (nestedUses engines engine data))
    (actions : List Action) :
    UsesStores (runBody call base nested actions)
      (bodyUses call nested nestedUses base baseUses actions) := by
  induction actions with
  | nil => exact Keeps.usesNothing (views_payloadOf _).keeps
  | cons action rest ih =>
    have hstep := (uses_doAction call hbase hnested action).bind fun _ => ih
    -- an action that ends the body is not done at all
    cases action with
    | finish data => exact Keeps.usesNothing (keeps_evalPayload data)
    | _ => exact hstep

theorem uses_evaluateAs
    (hnested : ∀ engines engine data,
      UsesStores (nested engines engine data) (nestedUses engines engine data))
    (cls : EngineClass) :
    UsesStores (evaluateAs call nested cls) (classUses call nested nestedUses cls) := by
  -- on the chain of classes, as evaluation goes up
  induction cls with
  | root => exact Keeps.usesNothing (.raise _)
  | template => exact Keeps.usesNothing (.raise _)
  | derived own above ih =>
    rw [evaluateAs, classUses]
    cases own.body with
    | none => exact ih
    | some actions => exact uses_runBody call ih hnested actions

end

/-- **A render uses stores as the evaluations in it do.** -/
theorem uses_render (depth engines : Nat) (engine : String) (file : Option (Traced File))
    (data : Payload) (context : Json) (bindings : Option Bindings) :
    UsesStores (render depth engines engine file data context bindings)
      (renderUses depth engines engine file data context bindings) := by
  -- on how deep renders may nest; those inside go by engines and bindings of their own
  induction depth generalizing engines engine file data bindings with
  | zero => exact Keeps.usesNothing fun _ => rfl
  | succ depth ih =>
    have hread : Keeps SameStores readClock := fun _ => rfl
    rw [render, renderUses]
    refine .after_same (keeps_createTemplate _ _ _ _ _ _) fun t => ?_
    refine .after_same hread fun start => ?_
    refine UsesStores.before_same (UsesStores.observe (uses_evaluateAs _ ?_ t.cls)) fun out => ?_
    · intro engines engine data
      exact ih engines engine t.file data _
    · exact keeps_finishRender hread (fun _ _ => rfl) engine _ start out

theorem uses_evaluate (depth : Nat) (t : Template) (context : Json)
    (bindings : Option Bindings) :
    UsesStores (evaluate depth t context bindings) (evaluateUses depth t context bindings) := by
  apply uses_evaluateAs
  intro engines engine data
  exact uses_render depth engines engine t.file data context bindings

/-! ### Steps -/

/-- The uses of a step on a store. -/
def librariesUses (on : String) : LibrariesStep → Session → List (Nat × Use)
  | .set name value =>
    bindUses (librariesAt on) noUses fun ref =>
      bindUses (evalLibrary value) noUses fun library => setUses ref name library
  | .assign name value =>
    bindUses (evalLibrary value) noUses fun library =>
      bindUses (librariesAt on) noUses fun ref => setUses ref name library
  | .clear => bindUses (librariesAt on) noUses emptyUses
  | .ensure name factory =>
    bindUses (librariesAt on) noUses fun ref =>
      bindUses (readStore ref) noUses fun _ =>
        ensureUses ref name (runFactory ref factory) (factoryUses ref factory)
  | _ => noUses

/-- The uses of a step. -/
def stepUses : Step → Session → List (Nat × Use)
  | .newLibraries title => bindUses freshId noUses fun id => emptyUses ⟨id, title⟩
  | .libraries on step => librariesUses on step
  | .loader on (.loadLibrary name file libraries) =>
    bindUses (loaderAt on) noUses fun l =>
      bindUses (librariesAt libraries) noUses fun ref => loadUses l name file ref
  | .template on (.evaluate context bindings) =>
    bindUses (templateAt on) noUses fun t => evaluateUses depthLimit t context bindings
  | .template on (.loadLibrary name) =>
    bindUses (templateAt on) noUses fun t => loadUses t.loader name t.fileValue t.libraries
  | .engines on (.render name file data context bindings) =>
    bindUses (enginesAt on) noUses fun id =>
      bindUses (evalPayload data) noUses fun data =>
        renderUses depthLimit id name file data context bindings
  | _ => noUses

theorem uses_performLibraries (on : String) (step : LibrariesStep) :
    UsesStores (performLibraries on step) (librariesUses on step) := by
  cases step with
  | set name value =>
    refine .after_same (views_librariesAt on).keeps fun ref => ?_
    refine .after_same (views_evalLibrary value).keeps fun library => ?_
    exact (uses_setLibrary ref name library).before_same fun _ => .pure _
  | assign name value =>
    refine .after_same (views_evalLibrary value).keeps fun library => ?_
    refine .after_same (views_librariesAt on).keeps fun ref => ?_
    exact (uses_setLibrary ref name library).before_same fun _ => .pure _
  | clear =>
    refine .after_same (views_librariesAt on).keeps fun ref => ?_
    exact (uses_empty ref).before_same fun _ => .pure _
  | ensure name factory =>
    refine .after_same (views_librariesAt on).keeps fun ref => ?_
    refine .after_same (views_readStore ref).keeps fun content => ?_
    refine (uses_ensureLibrary ref name (uses_runFactory ref factory)).before_same ?_
    exact fun library => keeps_freshId.bind fun _ => .pure _
  | _ => exact Keeps.usesNothing (keeps_performLibraries on rfl)

/-- **A step uses stores as its text says.** -/
theorem uses_performStep (step : Step) : UsesStores (performStep step) (stepUses step) := by
  have hend : ∀ id name s, SameStores s
      { s with engines := s.engines.put id ((s.registry id).unregister name) } :=
    fun _ _ _ => rfl
  cases step with
  | newLibraries title => exact (uses_newStore title).before_same fun _ => .pure _
  | libraries on step => exact uses_performLibraries on step
  | loader on step =>
    cases step with
    | loadLibrary name file libraries =>
      refine .after_same (views_loaderAt on).keeps fun l => ?_
      refine .after_same (views_librariesAt libraries).keeps fun ref => ?_
      exact uses_loadLibrary l name file ref
    | _ => exact Keeps.usesNothing (keeps_performLoader on rfl)
  | template on step =>
    cases step with
    | evaluate context bindings =>
      refine .after_same (views_templateAt on).keeps fun t => ?_
      exact (uses_evaluate depthLimit t context bindings).before_same fun _ => .pure _
    | loadLibrary name =>
      refine .after_same (views_templateAt on).keeps fun t => ?_
      exact uses_loadLibrary t.loader name t.fileValue t.libraries
    | _ => exact Keeps.usesNothing (keeps_performTemplate on rfl)
  | engines on step =>
    cases step with
    | render name file data context bindings =>
      refine .after_same (views_enginesAt on).keeps fun id => ?_
      refine .after_same (keeps_evalPayload data) fun data => ?_
      exact (uses_render depthLimit id name file data context bindings).before_same
        fun _ => .pure _
    | _ => exact Keeps.usesNothing (keeps_performEngines on rfl stores_register hend)
  | newEngines => exact Keeps.usesNothing (keeps_freshId.bind fun _ => fun _ => rfl)
  | modules step => exact Keeps.usesNothing (keeps_performModules (fun _ _ _ => rfl) step)
  | newLoader config => exact Keeps.usesNothing (keeps_newLoader config)
  | newResult value fault => exact Keeps.usesNothing (keeps_madeResult value fault)
  | result on step => exact Keeps.usesNothing (views_performResult on step).keeps
  | newTemplate cls file data libraries loader =>
    exact Keeps.usesNothing (keeps_madeTemplate cls file data libraries loader)
  | cls id step => exact Keeps.usesNothing (views_performClass id step).keeps
  | same first second => exact Keeps.usesNothing (views_compared first second).keeps

/-! ### Sessions -/

/-- The uses of steps in order. -/
def allUses : List Request → Session → List (Nat × Use)
  | [], _ => []
  | r :: rest, s => stepUses r.step { s with log := [] } ++ allUses rest (answer r s).2

theorem uses_serve (r : Request) : UsesStores (serve r) (stepUses r.step) :=
  (uses_performStep r.step).before_same fun o =>
    (keeps_bindOptional o r.handle).bind fun _ => .pure _

/-- **What the steps of a session make of a store is what their uses of it make of it.** -/
theorem replays_allUses (requests : List Request) (s : Session) (store : Nat) :
    Replays (s.storeAt store) (usesAt store (allUses requests s))
      ((afterAll requests s).storeAt store) := by
  induction requests generalizing s with
  | nil => rfl
  | cons r rest ih =>
    have hserve : Replays (s.storeAt store)
        (usesAt store (stepUses r.step { s with log := [] })) ((answer r s).2.storeAt store) :=
      uses_serve r { s with log := [] } store
    rw [allUses, usesAt_append]
    exact hserve.append (ih (answer r s).2)

/-- If all stores are empty, they are so still. -/
def StaysEmpty (s after : Session) : Prop :=
  (∀ store, s.storeAt store = Dict.empty) → ∀ store, after.storeAt store = Dict.empty

instance : Lenient StaysEmpty where
  refl _ h := h
  trans _ _ _ h h' hs := h' (h hs)
  overlook _ _ _ _ _ h := h
  acquired _ _ _ _ h := h
  written _ _ _ h := h

theorem staysEmpty_newStore (title : String) : Keeps StaysEmpty (newStore title) := by
  refine keeps_freshId.bind fun id => Keeps.bind ?_ fun _ => .pure _
  intro s hs store
  have hput : ((writeStore ⟨id, title⟩ Dict.empty).run s).2.storeAt store =
      if store = id then Dict.empty else s.storeAt store := storeAt_put rfl store
  rw [hput, hs store, ite_self]

/-- A session starts with empty stores. -/
theorem storeAt_start (installed : Installed) (classes : List ClassDecl) (clock : Clock)
    (store : Nat) :
    (declareAll classes (initial installed clock)).storeAt store = Dict.empty := by
  have hdeclared : ∀ s : Session, (∀ store, s.storeAt store = Dict.empty) →
      (declareAll classes s).storeAt store = Dict.empty := by
    induction classes with
    | nil => exact fun s hs => hs store
    | cons d rest ih =>
      exact fun s hs => ih _ (keeps_declareClass staysEmpty_newStore d s hs)
  apply hdeclared
  intro store
  -- the only store at the start is the shared one
  by_cases h : store = LibrariesRef.shared.id
  · rw [h]
    rfl
  · have hnone : (initial installed clock).libraries.get? store = none := by
      simp [initial, Dict.ofList, h]
    rw [storeAt, Dict.getD, hnone]
    rfl

end Session

end AssetPipeline
