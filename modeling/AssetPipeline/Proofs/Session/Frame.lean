/-
AssetPipeline/Proofs/Session/Frame.lean

What the programs of a session leave alone.

A program keeps a relation if every session is related to the one that the program
leaves behind, whether it stops or not (`Keeps`).  What two programs keep is kept by one
after the other, so a program is dealt with along its text.  A program that keeps equality
only looks, and so does one that reads a handle or a store, which also comes to the same
whatever the registries and the log are (`Views`).

Programs that do more keep every relation that overlooks what they do.  There are three
degrees of that: what most programs do (`Lenient`), writes to stores of libraries as well
(`OverlooksStores`), and renders as well, with their readings of the clock and all that
they write down (`OverlooksRenders`).  So a relation is brought under one of them once, by
the few writes that it has to overlook, and is then kept by whole renders.  Most programs
are quiet (`Quiet`): they touch neither a registry of engines nor the clock, and write
nothing down about engines.

Main statements: `views_handle` and the like for programs that only look, `keeps_require`
and the like for dependencies, templates and payloads, `OverlooksStores.keeps_doAction` for
actions and `OverlooksRenders.keeps_render` for renders.
-/
import AssetPipeline.Proofs.Session.Run
import AssetPipeline.Session.Conduct
import Mathlib.Order.Defs.Unbundled

namespace AssetPipeline

/-- Whether an action may let renders happen: it goes on in the class above, or renders itself. -/
def Action.isOuter : Action → Bool
  | .callBase | .render .. => true
  | _ => false

/-- Whether an action may put something into a store of libraries. -/
def Action.isStoring : Action → Bool
  | .loadLibrary _ | .setLibrary .. => true
  | _ => false

namespace Session

variable {α β : Type} {R S : Session → Session → Prop}

/-- Every session is related to the one that the program leaves behind. -/
def Keeps (R : Session → Session → Prop) (p : Run α) : Prop := ∀ s, R s (p.run s).2

/-- The program only looks. -/
abbrev Looks (p : Run α) : Prop := Keeps Eq p

/-! ### One program after another -/

theorem Keeps.mono {p : Run α} (h : Keeps R p) (hRS : ∀ s after, R s after → S s after) :
    Keeps S p :=
  fun s => hRS _ _ (h s)

section
variable [IsPreorder Session R]

/-- A program that only looks keeps everything. -/
theorem Looks.keeps {p : Run α} (h : Looks p) : Keeps R p :=
  h.mono fun s _ heq => heq ▸ refl s

theorem Keeps.pure (a : α) : Keeps R (Pure.pure a : Run α) := fun s => refl s

theorem Keeps.raise (fault : Fault) : Keeps R (raise fault : Run α) := fun s => refl s

theorem Keeps.get : Keeps R (MonadState.get : Run Session) := fun s => refl s

theorem Keeps.ofExcept (outcome : Except Fault α) : Keeps R (ofExcept outcome) := by
  intro s
  rw [run_ofExcept]
  exact refl s

theorem Keeps.bind {p : Run α} {f : α → Run β} (hp : Keeps R p) (hf : ∀ a, Keeps R (f a)) :
    Keeps R (p >>= f) := by
  intro s
  have hs := hp s
  -- a program that stops leaves the session to nobody else
  rcases hout : p.run s with ⟨halt | a, after⟩
  · rw [run_bind_error hout]
    rwa [hout] at hs
  · rw [run_bind_ok hout]
    rw [hout] at hs
    exact IsTrans.trans _ _ _ hs (hf a after)

theorem Keeps.forM {events : List Event} (h : ∀ e ∈ events, Keeps R (record e)) :
    Keeps R (events.forM record) := by
  induction events with
  | nil => exact Keeps.pure ()
  | cons e rest ih =>
    refine (h e List.mem_cons_self).bind fun _ => ih ?_
    intro e' he'
    exact h e' (List.mem_cons_of_mem e he')

end

theorem Keeps.modify {f : Session → Session} (h : ∀ s, R s (f s)) :
    Keeps R (modify f : Run PUnit) := h

/-! ### Looking -/

/-- The program only looks, and neither at registries of engines nor at the log. -/
def Views (p : Run α) : Prop :=
  ∀ (s : Session) engines log, p.run { s with engines := engines, log := log } =
    ((p.run s).1, { s with engines := engines, log := log })

namespace Views

theorem looks {p : Run α} (h : Views p) : Looks p :=
  fun s => (congrArg Prod.snd (h s s.engines s.log)).symm

theorem keeps {p : Run α} [IsPreorder Session R] (h : Views p) : Keeps R p := h.looks.keeps

theorem pure (a : α) : Views (Pure.pure a : Run α) := fun _ _ _ => rfl

theorem raise (fault : Fault) : Views (raise fault : Run α) := fun _ _ _ => rfl

theorem ofExcept (outcome : Except Fault α) : Views (ofExcept outcome) := by
  cases outcome with
  | ok a => exact pure a
  | error fault => exact raise fault

theorem bind {p : Run α} {f : α → Run β} (hp : Views p) (hf : ∀ a, Views (f a)) :
    Views (p >>= f) := by
  intro s engines log
  have hs := hp s engines log
  have hsame : s = (p.run s).2 := hp.looks s
  rcases hrun : p.run s with ⟨halt | a, after⟩
  · rw [hrun] at hs
    rw [run_bind_error hs, run_bind_error hrun]
  · rw [hrun] at hs hsame
    rw [run_bind_ok hs, run_bind_ok hrun, hsame]
    exact hf a after engines log

/-- What is read off everything else may be used. -/
theorem reading {f : Session → Run α}
    (hf : ∀ (s : Session) engines log, f { s with engines := engines, log := log } = f s)
    (hviews : ∀ s, Views (f s)) : Views (get >>= f) := by
  intro s engines log
  rw [run_bind_ok (run_get _), run_bind_ok (run_get s), hf]
  exact hviews s s engines log

end Views

theorem views_handle (name : String) : Views (handle name) := by
  refine .reading (fun _ _ _ => rfl) fun s => ?_
  cases s.handles.get? name with
  | some o => exact .pure o
  | none => exact .raise _

theorem views_classOf (name : String) : Views (classOf name) := by
  refine .reading (fun _ _ _ => rfl) fun s => ?_
  cases s.classes.get? name with
  | some c => exact .pure c
  | none => exact .raise _

theorem views_enginesAt (name : String) : Views (enginesAt name) := by
  refine (views_handle name).bind fun o => ?_
  cases o with
  | engines id => exact .pure id
  | _ => exact .raise _

theorem views_librariesAt (name : String) : Views (librariesAt name) := by
  refine (views_handle name).bind fun o => ?_
  cases o with
  | libraries ref => exact .pure ref
  | _ => exact .raise _

theorem views_loaderAt (name : String) : Views (loaderAt name) := by
  refine (views_handle name).bind fun o => ?_
  cases o with
  | loader id l => exact .pure l
  | _ => exact .raise _

theorem views_templateAt (name : String) : Views (templateAt name) := by
  refine (views_handle name).bind fun o => ?_
  cases o with
  | template t => exact .pure t
  | _ => exact .raise _

theorem views_optionalLibraries (name : Option String) : Views (optionalLibraries name) := by
  cases name with
  | none => exact .pure none
  | some name =>
    refine (views_handle name).bind fun o => ?_
    split
    · exact .pure none
    · exact (views_librariesAt name).bind fun ref => .pure (some ref)

theorem views_optionalLoader (name : Option String) : Views (optionalLoader name) := by
  cases name with
  | none => exact .pure none
  | some name =>
    refine (views_handle name).bind fun o => ?_
    split
    · exact .pure none
    · exact (views_loaderAt name).bind fun l => .pure (some l)

theorem views_locate (file : Option File) : Views (locate file) := by
  cases file with
  | none => exact .raise _
  | some file => exact .pure _

theorem views_evalLibrary (value : LibraryValue) : Views (evalLibrary value) := by
  cases value with
  | plain data => exact .pure _
  | token name => exact .pure _
  | handle name => exact views_handle name

theorem views_evalOffer (offer : Offer) : Views (evalOffer offer) := by
  cases offer with
  | cls id => exact (views_classOf id).bind fun c => .pure _
  | value value =>
    refine (views_evalLibrary value).bind fun o => ?_
    cases o with
    | cls c => exact .pure _
    | _ => exact .reading (fun _ _ _ => rfl) fun s => .pure _

theorem views_readStore (ref : LibrariesRef) : Views (readStore ref) := fun _ _ _ => rfl

theorem views_getLibrary (ref : LibrariesRef) (name : String) : Views (getLibrary ref name) :=
  (views_readStore ref).bind fun _ => .pure _

theorem views_payloadOf (t : Template) : Views (payloadOf t) := fun _ _ _ => rfl

theorem views_raiseIf (failure : Option Fault) : Views (raiseIf failure) := by
  cases failure with
  | none => exact .pure ()
  | some fault => exact .raise fault

/-! ### What most programs do -/

/-- What is written down about engines. -/
def aboutEngines (e : Event) : Bool := e.channel == "asset_templates.registry"

/-- The relation overlooks payloads, classes, handles and new objects, what loaders do to modules,
and what is written down, unless that is about engines. -/
class Lenient (R : Session → Session → Prop) : Prop extends IsPreorder Session R where
  overlook : ∀ (s : Session) payloads classes handles next,
    R s { s with payloads := payloads, classes := classes, handles := handles, next := next }
  acquired : ∀ l name file, Keeps R (acquire l name file)
  written : ∀ (s : Session) e, aboutEngines e = false → R s { s with log := s.log ++ [e] }

section
variable [Lenient R]

theorem keeps_freshId : Keeps R freshId := fun s => Lenient.overlook s _ _ _ _

theorem keeps_made (value : Json) : Keeps R (made value) := keeps_freshId.bind fun _ => .pure _

theorem keeps_newResult (value : Object) (fault : Option Fault) : Keeps R (newResult value fault) :=
  keeps_freshId.bind fun _ => .pure _

theorem keeps_newLoader (config : Option Json) : Keeps R (newLoader config) := by
  have hnew : ∀ config : Config,
      Keeps R (do return .loader (← freshId) ⟨config⟩ : Run Object) := by
    intro config
    exact keeps_freshId.bind fun id => .pure _
  rcases config with _ | value
  · exact hnew _
  · simp only [newLoader]
    split
    · exact hnew _
    · exact Keeps.bind (.raise _) hnew

theorem keeps_bindHandle (name : String) (o : Object) : Keeps R (bindHandle name o) :=
  fun s => Lenient.overlook s _ _ _ _

theorem keeps_bindOptional (o : Object) (name : Option String) : Keeps R (bindOptional o name) := by
  cases name with
  | none => exact .pure ()
  | some name => exact keeps_bindHandle name o

/-! ### Dependencies -/

/-- What is written down about a dependency is not about engines. -/
theorem aboutEngines_requireEvents {name : String} {file : Option File}
    {outcome : Except Fault Module} {e : Event}
    (h : e ∈ Loader.requireEvents name file outcome) : aboutEngines e = false := by
  unfold Loader.requireEvents at h
  split at h
  · rw [List.mem_singleton.1 h]
    rfl
  · rw [List.mem_singleton.1 h]
    rfl
  · cases h

theorem aboutEngines_tryEvents {outcome : Except Fault Module} {e : Event}
    (h : e ∈ Loader.tryEvents outcome) : aboutEngines e = false := by
  unfold Loader.tryEvents at h
  split at h
  · rw [List.mem_singleton.1 h]
    rfl
  · cases h

theorem keeps_require (l : Loader) (name : String) (file : Option File) :
    Keeps R (require l name file) := by
  refine (Lenient.acquired l name file).bind fun outcome => ?_
  refine Keeps.bind (.forM ?_) fun _ => .ofExcept outcome
  intro e he s
  exact Lenient.written s e (aboutEngines_requireEvents he)

theorem keeps_tryRequire (l : Loader) (name : String) (file : Option File) :
    Keeps R (tryRequire l name file) := by
  refine (Lenient.acquired l name file).bind fun outcome => ?_
  refine Keeps.bind (.forM ?_) fun _ => .ofExcept _
  intro e he s
  exact Lenient.written s e (aboutEngines_tryEvents he)

/-! ### Templates and payloads -/

theorem keeps_newTemplate (cls : EngineClass) (file : Option (Traced File)) (data : Payload)
    (libraries : Option LibrariesRef) (loader : Option Loader) :
    Keeps R (newTemplate cls file data libraries loader) := by
  have hnew : Keeps R (do
      let t : Template :=
        { id := ← freshId
          cls := cls
          file := file
          libraries := Template.chooseLibraries cls libraries
          loader := loader.getD ⟨.default⟩ }
      modify fun s => { s with payloads := s.payloads.put t.id data }
      return t : Run Template) :=
    keeps_freshId.bind fun _ =>
      Keeps.bind (.modify fun s => Lenient.overlook s _ _ _ _) fun _ => .pure _
  unfold newTemplate
  split
  · exact Keeps.bind (.raise _) fun _ => hnew
  · exact hnew

theorem keeps_createTemplate (engines : Nat) (engine : String) (file : Option (Traced File))
    (data : Payload) (libraries : Option LibrariesRef) (loader : Option Loader) :
    Keeps R (createTemplate engines engine file data libraries loader) :=
  Keeps.get.bind fun _ => Keeps.bind (.ofExcept _) fun cls =>
    keeps_newTemplate cls file data libraries loader

theorem keeps_setPayload (t : Template) (data : Payload) : Keeps R (setPayload t data) :=
  fun s => Lenient.overlook s _ _ _ _

theorem keeps_evalPayload (value : PayloadValue) : Keeps R (evalPayload value) := by
  cases value with
  | text data => exact .pure _
  | bytes digits =>
    rw [evalPayload]
    split
    · exact keeps_freshId.bind fun _ => .pure _
    · exact .raise _

theorem keeps_putTraced (t : Template) (text : Nat → Traced String) : Keeps R (putTraced t text) :=
  keeps_freshId.bind fun _ => (views_payloadOf t).keeps.bind fun _ => keeps_setPayload t _

theorem keeps_put (t : Template) (value : Json) : Keeps R (put t value) := keeps_putTraced t _

end

/-! ### The end of a render -/

/-- The end of a render reads the clock and writes an event down, and does nothing else. -/
theorem keeps_finishRender [IsPreorder Session R] (hread : Keeps R readClock)
    (hrecord : ∀ e, Keeps R (record e)) (engine : String) (file : Option File) (start : Float)
    (out : Except Halt Payload) : Keeps R (finishRender engine file start out) := by
  rcases out with (fault | _) | result
  · rw [finishRender]
    split
    · refine hread.bind fun stop => ?_
      refine (views_locate file).keeps.bind fun location => ?_
      exact (hrecord _).bind fun _ => .raise fault
    · exact .raise fault
  · exact fun s => refl s
  · refine hread.bind fun stop => ?_
    refine (views_locate file).keeps.bind fun location => ?_
    exact (hrecord _).bind fun _ => .pure result

/-! ### Being quiet -/

/-- Registries of engines and the clock are as before, and what has been written down is not about
engines. -/
structure Quiet (s after : Session) : Prop where
  engines : after.engines = s.engines
  clock : after.clock = s.clock
  log : ∃ written, after.log = s.log ++ written ∧ written.filter aboutEngines = []

/-- Nothing has been written down. -/
theorem Quiet.of_log {s after : Session} (he : after.engines = s.engines)
    (hc : after.clock = s.clock) (hl : after.log = s.log) : Quiet s after :=
  ⟨he, hc, [], by rw [hl, List.append_nil], rfl⟩

theorem Quiet.of_written {s : Session} {e : Event} (h : aboutEngines e = false) :
    Quiet s { s with log := s.log ++ [e] } := by
  refine ⟨rfl, rfl, [e], rfl, ?_⟩
  rw [List.filter_cons_of_neg (by simp [h])]
  rfl

instance : Lenient Quiet where
  refl _ := .of_log rfl rfl rfl
  trans _ _ _ h h' := by
    obtain ⟨written, hlog, hw⟩ := h.log
    obtain ⟨written', hlog', hw'⟩ := h'.log
    refine ⟨h'.engines.trans h.engines, h'.clock.trans h.clock, written ++ written', ?_, ?_⟩
    · rw [hlog', hlog, List.append_assoc]
    · rw [List.filter_append, hw, hw', List.append_nil]
  overlook _ _ _ _ _ := .of_log rfl rfl rfl
  acquired _ _ _ _ := .of_log rfl rfl rfl
  written _ _ h := .of_written h

/-! ### Libraries -/

/-- The relation overlooks stores of libraries, too. -/
class OverlooksStores (R : Session → Session → Prop) : Prop extends Lenient R where
  stored : ∀ (s : Session) libraries, R s { s with libraries := libraries }

instance : OverlooksStores Quiet where
  stored _ _ := .of_log rfl rfl rfl

section
variable [OverlooksStores R]

theorem keeps_writeStore (ref : LibrariesRef) (content : Dict String Object) :
    Keeps R (writeStore ref content) := .modify fun s => OverlooksStores.stored s _

theorem keeps_setLibrary (ref : LibrariesRef) (name : String) (library : Object) :
    Keeps R (setLibrary ref name library) := by
  refine (views_readStore ref).keeps.bind fun content => ?_
  refine Keeps.bind (fun s => Lenient.written s _ ?_) fun _ => keeps_writeStore ref _
  unfold storeEvent
  split
  · split <;> rfl
  · rfl

theorem keeps_ensureLibrary {make : Run Object} (ref : LibrariesRef) (name : String)
    (h : Keeps R make) : Keeps R (ensureLibrary ref name make) := by
  refine (views_readStore ref).keeps.bind fun content => ?_
  split
  · refine h.bind fun library => ?_
    exact (keeps_setLibrary ref name library).bind fun _ => (views_getLibrary ref name).keeps
  · exact (views_getLibrary ref name).keeps

theorem keeps_loadLibrary (l : Loader) (name : String) (file : Option File) (ref : LibrariesRef) :
    Keeps R (loadLibrary l name file ref) :=
  keeps_ensureLibrary ref name ((keeps_require l name file).bind fun _ => .pure _)

theorem keeps_newStore (title : String) : Keeps R (newStore title) :=
  keeps_freshId.bind fun _ => (keeps_writeStore _ _).bind fun _ => .pure _

theorem keeps_clearIf (ref : LibrariesRef) (clear : Bool) : Keeps R (clearIf ref clear) := by
  cases clear with
  | true => exact keeps_writeStore ref _
  | false => exact .pure ()

theorem keeps_setLibraries (ref : LibrariesRef) (writes : List (String × LibraryValue)) :
    Keeps R (setLibraries ref writes) := by
  induction writes with
  | nil => exact .pure ()
  | cons write rest ih =>
    exact (views_evalLibrary write.2).keeps.bind fun library =>
      (keeps_setLibrary ref write.1 library).bind fun _ => ih

mutual
theorem keeps_runFactory (ref : LibrariesRef) : ∀ f : Factory, Keeps R (runFactory ref f)
  | .make clear writes fills failure value => by
    refine (keeps_clearIf ref clear).bind fun _ => ?_
    refine (keeps_setLibraries ref writes).bind fun _ => ?_
    refine (keeps_runFills ref fills).bind fun _ => ?_
    exact ((views_raiseIf failure).bind fun _ => views_evalLibrary value).keeps
theorem keeps_runFills (ref : LibrariesRef) :
    ∀ fills : List (String × Factory), Keeps R (runFills ref fills)
  | [] => .pure ()
  | (name, factory) :: rest =>
    (keeps_ensureLibrary ref name (keeps_runFactory ref factory)).bind fun _ =>
      keeps_runFills ref rest
end

end

/-! ### Actions -/

/-- Most actions do nothing but look, require dependencies and change the payload. -/
theorem keeps_doAction [Lenient R] (call : Call) (base : Run Payload)
    (nested : Nat → String → Payload → Run Payload) {action : Action}
    (houter : action.isOuter = false) (hstoring : action.isStoring = false) :
    Keeps R (doAction call base nested action) := by
  cases action with
  | append text => exact keeps_putTraced _ _
  | setData data => exact (keeps_evalPayload data).bind fun _ => keeps_setPayload _ _
  | putVariable key => exact Keeps.bind (.ofExcept _) fun _ => keeps_putTraced _ _
  | putVariables => exact keeps_put _ _
  | putContext => exact keeps_put _ _
  | putFile => exact keeps_put _ _
  | require name => exact (keeps_require _ _ _).bind fun _ => keeps_put _ _
  | tryRequire name => exact (keeps_tryRequire _ _ _).bind fun _ => keeps_put _ _
  | getLibrary name => exact (views_getLibrary _ _).keeps.bind fun _ => keeps_put _ _
  | raise fault => exact .raise fault
  | finish data => exact .pure ()
  | loadLibrary name => cases hstoring
  | setLibrary name library => cases hstoring
  | callBase => cases houter
  | render engines engine data => cases houter

theorem OverlooksStores.keeps_doAction [OverlooksStores R] (call : Call) (base : Run Payload)
    (nested : Nat → String → Payload → Run Payload) {action : Action}
    (h : action.isOuter = false) : Keeps R (doAction call base nested action) := by
  cases action with
  | loadLibrary name => exact (keeps_loadLibrary _ _ _ _).bind fun _ => keeps_put _ _
  | setLibrary name library =>
    exact (views_evalLibrary _).keeps.bind fun _ => keeps_setLibrary _ _ _
  | _ => exact Session.keeps_doAction call base nested h rfl

/-! ### Evaluations and renders -/

/-- The relation overlooks the clock and all that is written down, too. -/
class OverlooksRenders (R : Session → Session → Prop) : Prop extends OverlooksStores R where
  rendered : ∀ (s : Session) clock log, R s { s with clock := clock, log := log }

namespace OverlooksRenders

variable [OverlooksRenders R]

section
variable {call : Call} {base : Run Payload} {nested : Nat → String → Payload → Run Payload}

theorem keeps_doAction (hbase : Keeps R base)
    (hnested : ∀ engines engine data, Keeps R (nested engines engine data))
    (action : Action) : Keeps R (doAction call base nested action) := by
  cases action with
  | callBase => exact hbase.bind fun _ => keeps_putTraced _ _
  | render engines engine data =>
    refine (views_enginesAt engines).keeps.bind fun id => ?_
    refine (keeps_evalPayload data).bind fun data => ?_
    exact (hnested id engine data).bind fun _ => keeps_putTraced _ _
  | _ => exact OverlooksStores.keeps_doAction call base nested rfl

theorem keeps_runBody (hbase : Keeps R base)
    (hnested : ∀ engines engine data, Keeps R (nested engines engine data))
    (actions : List Action) : Keeps R (runBody call base nested actions) := by
  induction actions with
  | nil => exact (views_payloadOf _).keeps
  | cons action rest ih =>
    -- an action that ends the body is not done at all
    cases action with
    | finish data => exact keeps_evalPayload data
    | _ => exact (keeps_doAction hbase hnested _).bind fun _ => ih

theorem keeps_evaluateAs
    (hnested : ∀ engines engine data, Keeps R (nested engines engine data))
    (cls : EngineClass) : Keeps R (evaluateAs call nested cls) := by
  induction cls with
  | root => exact .raise _
  | template => exact .raise _
  | derived own above ih =>
    rw [evaluateAs]
    split
    · exact keeps_runBody ih hnested _
    · exact ih

end

theorem keeps_readClock : Keeps R readClock := fun s => rendered s _ _

theorem keeps_record (e : Event) : Keeps R (record e) := fun s => rendered s _ _

/-- **What overlooks all that an evaluation does is kept by renders.** -/
theorem keeps_render (depth engines : Nat) (engine : String) (file : Option (Traced File))
    (data : Payload) (context : Json) (bindings : Option Bindings) :
    Keeps R (render depth engines engine file data context bindings) := by
  -- on how deep renders may nest; those inside go by engines and bindings of their own
  induction depth generalizing engines engine file data bindings with
  | zero => exact fun s => refl s
  | succ depth ih =>
    rw [render]
    refine (keeps_createTemplate _ _ _ _ _ _).bind fun t => ?_
    refine keeps_readClock.bind fun start => ?_
    have hobserve : Keeps R (observe (evaluateAs ⟨t, context, some (bindings.getD [])⟩
        (fun engines engine data =>
          render depth engines engine t.file data context (some (bindings.getD []))) t.cls)) :=
      keeps_evaluateAs (fun engines engine data => ih engines engine t.file data _) t.cls
    refine hobserve.bind fun out => ?_
    exact keeps_finishRender keeps_readClock keeps_record engine _ start out

theorem keeps_evaluate (depth : Nat) (t : Template) (context : Json)
    (bindings : Option Bindings) : Keeps R (evaluate depth t context bindings) := by
  apply keeps_evaluateAs
  intro engines engine data
  exact keeps_render depth engines engine t.file data context bindings

end OverlooksRenders

end Session

end AssetPipeline
