/-
AssetPipeline/Proofs/Session/Congruence.lean

Two programs that differ in the renders inside them.

Some relations between programs go through whole evaluations: if the renders that a body starts are
related, and what the class above does, then so are the bodies (`Congruence`).  For that they have
to go through one program after another and through the measuring of a render, and most programs,
which look at neither registries nor the clock nor the log, have to be related to themselves
(`Oblivious`).

Main statements: `congruent_evaluateAs` for evaluations, `congruent_rendering` for renders by the
renders inside them, and `congruent_render` for a render and itself.
-/
import AssetPipeline.Proofs.Session.Run
import AssetPipeline.Session.Evaluate

namespace AssetPipeline.Session

variable {α β : Type}

/-! ### Programs that do not look -/

/-- Registries, the clock and the log make no difference to the program, and it leaves them
alone. -/
def Oblivious (p : Run α) : Prop :=
  ∀ (s : Session) engines clock log,
    p.run { s with engines := engines, clock := clock, log := log } =
      ((p.run s).1, { (p.run s).2 with engines := engines, clock := clock, log := log })

namespace Oblivious

theorem pure (a : α) : Oblivious (Pure.pure a : Run α) := fun _ _ _ _ => rfl

theorem throw (halt : Halt) : Oblivious (MonadExcept.throw halt : Run α) := fun _ _ _ _ => rfl

theorem raise (fault : Fault) : Oblivious (raise fault : Run α) := fun _ _ _ _ => rfl

theorem ofExcept (outcome : Except Fault α) : Oblivious (ofExcept outcome) := by
  cases outcome with
  | ok a => exact pure a
  | error fault => exact raise fault

theorem bind {p : Run α} {f : α → Run β} (hp : Oblivious p) (hf : ∀ a, Oblivious (f a)) :
    Oblivious (p >>= f) := by
  intro s engines clock log
  have hs := hp s engines clock log
  rcases hrun : p.run s with ⟨halt | a, after⟩
  · rw [hrun] at hs
    rw [run_bind_error hs, run_bind_error hrun]
  · rw [hrun] at hs
    rw [run_bind_ok hs, run_bind_ok hrun]
    exact hf a after engines clock log

/-- A program may look at everything else. -/
theorem looking {f : Session → Run α}
    (hf : ∀ (s : Session) engines clock log,
      f { s with engines := engines, clock := clock, log := log } = f s)
    (hoblivious : ∀ s, Oblivious (f s)) : Oblivious (get >>= f) := by
  intro s engines clock log
  rw [run_bind_ok (run_get _), run_bind_ok (run_get s), hf]
  exact hoblivious s s engines clock log

end Oblivious

theorem oblivious_freshId : Oblivious freshId := fun _ _ _ _ => rfl

theorem oblivious_acquire (l : Loader) (name : String) (file : Option File) :
    Oblivious (acquire l name file) := fun _ _ _ _ => rfl

theorem oblivious_handle (name : String) : Oblivious (handle name) := by
  refine .looking (fun _ _ _ _ => rfl) fun s => ?_
  cases s.handles.get? name with
  | some o => exact .pure o
  | none => exact .raise _

theorem oblivious_enginesAt (name : String) : Oblivious (enginesAt name) := by
  refine (oblivious_handle name).bind fun o => ?_
  cases o with
  | engines id => exact .pure id
  | _ => exact .raise _

theorem oblivious_evalLibrary (value : LibraryValue) : Oblivious (evalLibrary value) := by
  cases value with
  | plain data => exact .pure _
  | token name => exact .pure _
  | handle name => exact oblivious_handle name

theorem oblivious_readStore (ref : LibrariesRef) : Oblivious (readStore ref) := fun _ _ _ _ => rfl

theorem oblivious_getLibrary (ref : LibrariesRef) (name : String) :
    Oblivious (getLibrary ref name) :=
  (oblivious_readStore ref).bind fun _ => .pure _

theorem oblivious_writeStore (ref : LibrariesRef) (content : Dict String Object) :
    Oblivious (writeStore ref content) := fun _ _ _ _ => rfl

theorem oblivious_clearIf (ref : LibrariesRef) (clear : Bool) : Oblivious (clearIf ref clear) := by
  cases clear with
  | true => exact oblivious_writeStore ref _
  | false => exact .pure ()

theorem oblivious_raiseIf (failure : Option Fault) : Oblivious (raiseIf failure) := by
  cases failure with
  | none => exact .pure ()
  | some fault => exact .raise fault

theorem oblivious_newTemplate (cls : EngineClass) (file : Option (Traced File)) (data : Payload)
    (libraries : Option LibrariesRef) (loader : Option Loader) :
    Oblivious (newTemplate cls file data libraries loader) := by
  unfold newTemplate
  split
  · exact Oblivious.bind (.raise _) fun _ => fun _ _ _ _ => rfl
  · exact fun _ _ _ _ => rfl

theorem oblivious_payloadOf (t : Template) : Oblivious (payloadOf t) := fun _ _ _ _ => rfl

theorem oblivious_setPayload (t : Template) (data : Payload) : Oblivious (setPayload t data) :=
  fun _ _ _ _ => rfl

theorem oblivious_evalPayload (value : PayloadValue) : Oblivious (evalPayload value) := by
  cases value with
  | text data => exact .pure _
  | bytes digits =>
    rw [evalPayload]
    split
    · exact oblivious_freshId.bind fun _ => .pure _
    · exact .raise _

theorem oblivious_putTraced (t : Template) (text : Nat → Traced String) :
    Oblivious (putTraced t text) :=
  oblivious_freshId.bind fun _ => (oblivious_payloadOf t).bind fun _ => oblivious_setPayload t _

theorem oblivious_put (t : Template) (value : Json) : Oblivious (put t value) :=
  oblivious_putTraced t _

/-! ### Congruences -/

/-- Do what a render does with an evaluation: measure how long it takes, and write down how it
went. -/
def measured (engine : String) (file : Option File) (evaluation : Run Payload) : Run Payload := do
  let start ← readClock
  let outcome ← observe evaluation
  finishRender engine file start outcome

/-- The relation goes through evaluations. -/
class Congruence (Q : {α : Type} → Run α → Run α → Prop) : Prop where
  bind : ∀ {α β : Type} {p q : Run α} {f g : α → Run β}, Q p q → (∀ a, Q (f a) (g a)) →
    Q (p >>= f) (q >>= g)
  oblivious : ∀ {α : Type} {p : Run α}, Oblivious p → Q p p
  recorded : ∀ e, Q (record e) (record e)
  created : ∀ engines engine file data libraries loader,
    Q (createTemplate engines engine file data libraries loader)
      (createTemplate engines engine file data libraries loader)
  measuring : ∀ engine file {p q : Run Payload}, Q p q →
    Q (measured engine file p) (measured engine file q)

section
variable (Q : {α : Type} → Run α → Run α → Prop) [Congruence Q]

open Congruence

/-! ### Dependencies and libraries -/

theorem congruent_records (events : List Event) : Q (events.forM record) (events.forM record) := by
  induction events with
  | nil => exact oblivious (.pure ())
  | cons e rest ih => exact bind (recorded e) fun _ => ih

theorem congruent_require (l : Loader) (name : String) (file : Option File) :
    Q (require l name file) (require l name file) :=
  bind (oblivious (oblivious_acquire l name file)) fun outcome =>
    bind (congruent_records Q _) fun _ => oblivious (.ofExcept outcome)

theorem congruent_tryRequire (l : Loader) (name : String) (file : Option File) :
    Q (tryRequire l name file) (tryRequire l name file) :=
  bind (oblivious (oblivious_acquire l name file)) fun _ =>
    bind (congruent_records Q _) fun _ => oblivious (.ofExcept _)

theorem congruent_setLibrary (ref : LibrariesRef) (name : String) (library : Object) :
    Q (setLibrary ref name library) (setLibrary ref name library) :=
  bind (oblivious (oblivious_readStore ref)) fun _ =>
    bind (recorded _) fun _ => oblivious (oblivious_writeStore ref _)

theorem congruent_ensureLibrary (ref : LibrariesRef) (name : String) {make make' : Run Object}
    (h : Q make make') : Q (ensureLibrary ref name make) (ensureLibrary ref name make') := by
  refine bind (oblivious (oblivious_readStore ref)) fun content => ?_
  split
  · refine bind h fun library => ?_
    exact bind (congruent_setLibrary Q ref name library) fun _ =>
      oblivious (oblivious_getLibrary ref name)
  · exact oblivious (oblivious_getLibrary ref name)

theorem congruent_loadLibrary (l : Loader) (name : String) (file : Option File)
    (ref : LibrariesRef) : Q (loadLibrary l name file ref) (loadLibrary l name file ref) :=
  congruent_ensureLibrary Q ref name
    (bind (congruent_require Q l name file) fun _ => oblivious (.pure _))

theorem congruent_setLibraries (ref : LibrariesRef) (writes : List (String × LibraryValue)) :
    Q (setLibraries ref writes) (setLibraries ref writes) := by
  induction writes with
  | nil => exact oblivious (.pure ())
  | cons write rest ih =>
    exact bind (oblivious (oblivious_evalLibrary write.2)) fun library =>
      bind (congruent_setLibrary Q ref write.1 library) fun _ => ih

mutual
theorem congruent_runFactory (ref : LibrariesRef) :
    ∀ f : Factory, Q (runFactory ref f) (runFactory ref f)
  | .make clear writes fills failure value => by
    refine bind (oblivious (oblivious_clearIf ref clear)) fun _ => ?_
    refine bind (congruent_setLibraries Q ref writes) fun _ => ?_
    refine bind (congruent_runFills ref fills) fun _ => ?_
    exact oblivious ((oblivious_raiseIf failure).bind fun _ => oblivious_evalLibrary value)
theorem congruent_runFills (ref : LibrariesRef) :
    ∀ fills : List (String × Factory), Q (runFills ref fills) (runFills ref fills)
  | [] => oblivious (.pure ())
  | (name, factory) :: rest =>
    bind (congruent_ensureLibrary Q ref name (congruent_runFactory ref factory)) fun _ =>
      congruent_runFills ref rest
end

/-! ### Evaluations -/

section
variable {call : Call} {base base' : Run Payload}
  {nested nested' : Nat → String → Payload → Run Payload}

theorem congruent_doAction (hbase : Q base base')
    (hnested : ∀ engines engine data, Q (nested engines engine data) (nested' engines engine data))
    (action : Action) : Q (doAction call base nested action) (doAction call base' nested' action) := by
  cases action with
  | append text => exact oblivious (oblivious_putTraced _ _)
  | setData data =>
    exact oblivious ((oblivious_evalPayload data).bind fun _ => oblivious_setPayload _ _)
  | putVariable key => exact oblivious (Oblivious.bind (.ofExcept _) fun _ => oblivious_putTraced _ _)
  | putVariables => exact oblivious (oblivious_put _ _)
  | putContext => exact oblivious (oblivious_put _ _)
  | putFile => exact oblivious (oblivious_put _ _)
  | require name => exact bind (congruent_require Q _ _ _) fun _ => oblivious (oblivious_put _ _)
  | tryRequire name =>
    exact bind (congruent_tryRequire Q _ _ _) fun _ => oblivious (oblivious_put _ _)
  | loadLibrary name =>
    exact bind (congruent_loadLibrary Q _ _ _ _) fun _ => oblivious (oblivious_put _ _)
  | getLibrary name =>
    exact oblivious ((oblivious_getLibrary _ _).bind fun _ => oblivious_put _ _)
  | setLibrary name library =>
    exact bind (oblivious (oblivious_evalLibrary _)) fun _ => congruent_setLibrary Q _ _ _
  | raise fault => exact oblivious (.raise fault)
  | callBase => exact bind hbase fun _ => oblivious (oblivious_putTraced _ _)
  | render engines engine data =>
    refine bind (oblivious (oblivious_enginesAt engines)) fun id => ?_
    refine bind (oblivious (oblivious_evalPayload data)) fun data => ?_
    exact bind (hnested id engine data) fun _ => oblivious (oblivious_putTraced _ _)
  | finish data => exact oblivious (.pure ())

theorem congruent_runBody (hbase : Q base base')
    (hnested : ∀ engines engine data, Q (nested engines engine data) (nested' engines engine data))
    (actions : List Action) :
    Q (runBody call base nested actions) (runBody call base' nested' actions) := by
  induction actions with
  | nil => exact oblivious (oblivious_payloadOf _)
  | cons action rest ih =>
    -- an action that ends the body is not done at all
    cases action with
    | finish data => exact oblivious (oblivious_evalPayload data)
    | _ => exact bind (congruent_doAction Q hbase hnested _) fun _ => ih

/-- **Evaluations are related as the renders inside them are.** -/
theorem congruent_evaluateAs
    (hnested : ∀ engines engine data, Q (nested engines engine data) (nested' engines engine data))
    (cls : EngineClass) : Q (evaluateAs call nested cls) (evaluateAs call nested' cls) := by
  -- on the chain of classes, as evaluation goes up
  induction cls with
  | root => exact oblivious (.raise _)
  | template => exact oblivious (.raise _)
  | derived own above ih =>
    rw [evaluateAs, evaluateAs]
    split
    · exact congruent_runBody Q ih hnested _
    · exact ih

end

/-! ### Renders -/

/-- A render is the making of a template and one evaluation, which is measured. -/
theorem render_succ (depth engines : Nat) (engine : String) (file : Option (Traced File))
    (data : Payload) (context : Json) (bindings : Option Bindings) :
    render (depth + 1) engines engine file data context bindings =
      (createTemplate engines engine file data none none >>= fun t =>
        measured engine (file.map Traced.value)
          (evaluate depth t context (some (bindings.getD [])))) := rfl

/-- **Renders are related as the renders inside them are.** -/
theorem congruent_rendering {depth depth' : Nat}
    (hnested : ∀ engines engine file data context bindings,
      Q (render depth engines engine file data context bindings)
        (render depth' engines engine file data context bindings))
    (engines : Nat) (engine : String) (file : Option (Traced File)) (data : Payload)
    (context : Json) (bindings : Option Bindings) :
    Q (render (depth + 1) engines engine file data context bindings)
      (render (depth' + 1) engines engine file data context bindings) := by
  rw [render_succ, render_succ]
  refine bind (created _ _ _ _ _ _) fun t => ?_
  refine measuring _ _ (congruent_evaluateAs Q ?_ t.cls)
  intro engines engine data
  exact hnested engines engine t.file data context _

/-- **A render is related to itself.** -/
theorem congruent_render (depth engines : Nat) (engine : String) (file : Option (Traced File))
    (data : Payload) (context : Json) (bindings : Option Bindings) :
    Q (render depth engines engine file data context bindings)
      (render depth engines engine file data context bindings) := by
  induction depth generalizing engines engine file data context bindings with
  | zero => exact oblivious (.throw .tooDeep)
  | succ depth ih => exact congruent_rendering Q ih engines engine file data context bindings

theorem congruent_evaluate (depth : Nat) (t : Template) (context : Json)
    (bindings : Option Bindings) :
    Q (evaluate depth t context bindings) (evaluate depth t context bindings) := by
  apply congruent_evaluateAs
  intro engines engine data
  exact congruent_render Q depth engines engine t.file data context bindings

end

end AssetPipeline.Session
