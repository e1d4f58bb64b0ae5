/-
AssetPipeline/Proofs/Session/Asking.lean

What loaders are asked in a session.

Callers, templates and the bodies of engines ask loaders for dependencies: to require one, to try
one, or to load one from a store of libraries.  Which loaders are asked for what, and in which
session, is read off a run, action by action (`actionAskings`, `bodyAskings`, `renderAskings`,
`stepAskings`), whether they give what they are asked for or not.

A relation links the askings of a run if it holds from the start to the first of them, from the
end of each to the next one, and from the end of the last to where the run ends (`Linked`).  So
what holds between askings, and is kept by each of them, holds in the whole run.

Main statements: `Linked.append` for one part of a run after another, and `Linked.split` for what
comes before an asking and after it.
-/
import AssetPipeline.Proofs.Session.Engines

namespace AssetPipeline

/-- What a loader is asked to do. -/
inductive Errand where
  | require
  | tryRequire
  | load (ref : LibrariesRef)
  deriving DecidableEq

/-- A loader is asked for a dependency. -/
structure Asking where
  loader : Loader
  name : String
  file : Option File
  errand : Errand
  /-- The session as it is then. -/
  now : Session

namespace Asking

open Session

/-- The session when the loader has answered. -/
def after (a : Asking) : Session :=
  match a.errand with
  | .require => ((require a.loader a.name a.file).run a.now).2
  | .tryRequire => ((tryRequire a.loader a.name a.file).run a.now).2
  | .load ref => ((loadLibrary a.loader a.name a.file ref).run a.now).2

theorem after_of_load {a : Asking} {ref : LibrariesRef} (h : a.errand = .load ref) :
    a.after = ((loadLibrary a.loader a.name a.file ref).run a.now).2 := by
  rw [after, h]

end Asking

namespace Session

variable {α β : Type} {R : Session → Session → Prop} {s middle after : Session}

/-! ### From one asking to the next -/

/-- The relation holds from the start to the first asking, from the end of each to the next one, and
from the end of the last one on. -/
def Linked (R : Session → Session → Prop) : Session → List Asking → Session → Prop
  | s, [], after => R s after
  | s, a :: rest, after => R s a.now ∧ Linked R a.after rest after

theorem Linked.preceded [IsTrans Session R] {askings : List Asking} (hs : R s middle)
    (h : Linked R middle askings after) : Linked R s askings after := by
  cases askings with
  | nil => exact IsTrans.trans _ _ _ hs h
  | cons a rest => exact ⟨IsTrans.trans _ _ _ hs h.1, h.2⟩

/-- **One part of a run after another.** -/
theorem Linked.append [IsTrans Session R] {askings askings' : List Asking}
    (h : Linked R s askings middle) (h' : Linked R middle askings' after) :
    Linked R s (askings ++ askings') after := by
  induction askings generalizing s with
  | nil => exact h'.preceded h
  | cons a rest ih => exact ⟨h.1, ih h.2⟩

/-- **What comes before an asking, and what comes after it.** -/
theorem Linked.split {earlier later : List Asking} {a : Asking}
    (h : Linked R s (earlier ++ a :: later) after) :
    Linked R s earlier a.now ∧ Linked R a.after later after := by
  induction earlier generalizing s with
  | nil => exact h
  | cons first rest ih =>
    obtain ⟨hbefore, hafter⟩ := ih h.2
    exact ⟨⟨h.1, hbefore⟩, hafter⟩

/-! ### The askings of a run -/

/-- A program that asks no loader. -/
def noAskings : Session → List Asking := fun _ => []

/-- A loader is asked. -/
def asks (l : Loader) (name : String) (file : Option File) (errand : Errand) :
    Session → List Asking := fun s => [⟨l, name, file, errand, s⟩]

/-- The askings of one program after another: those of the second if the first does not stop. -/
def bindAskings (p : Run α) (first : Session → List Asking)
    (second : α → Session → List Asking) (s : Session) : List Asking :=
  first s ++
    match p.run s with
    | (.ok a, after) => second a after
    | (.error _, _) => []

/-- Whether the first program stops or not, one without askings adds nothing. -/
theorem bindAskings_noAskings (p : Run α) (first : Session → List Asking) :
    (bindAskings p first fun _ => noAskings) = first := by
  funext s
  rw [bindAskings]
  rcases p.run s with ⟨_ | _, _⟩ <;> exact List.append_nil _

section
variable (call : Call) (nested : Nat → String → Payload → Run Payload)
  (nestedAskings : Nat → String → Payload → Session → List Asking)

/-- The askings of an action, those of the class above being `baseAskings`. -/
def actionAskings (baseAskings : Session → List Asking) : Action → Session → List Asking
  | .require name => asks call.template.loader name call.template.fileValue .require
  | .tryRequire name => asks call.template.loader name call.template.fileValue .tryRequire
  | .loadLibrary name =>
    asks call.template.loader name call.template.fileValue (.load call.template.libraries)
  | .callBase => baseAskings
  | .render engines engine data =>
    bindAskings (enginesAt engines) noAskings fun id =>
      bindAskings (evalPayload data) noAskings fun data => nestedAskings id engine data
  | _ => noAskings

/-- The askings of a body, up to the action that ends it. -/
def bodyAskings (base : Run Payload) (baseAskings : Session → List Asking) :
    List Action → Session → List Asking
  | [] => noAskings
  | .finish _ :: _ => noAskings
  | action :: rest =>
    bindAskings (doAction call base nested action)
      (actionAskings call nestedAskings baseAskings action)
      fun _ => bodyAskings base baseAskings rest

/-- The askings of an evaluation. -/
def classAskings : EngineClass → Session → List Asking
  | .derived own above =>
    match own.body with
    | some actions =>
      bodyAskings call nested nestedAskings (evaluateAs call nested above) (classAskings above)
        actions
    | none => classAskings above
  | _ => noAskings

end

/-- The askings of a render, those of the renders inside it included. -/
def renderAskings : (depth engines : Nat) → (engine : String) → Option (Traced File) → Payload →
    Json → Option Bindings → Session → List Asking
  | 0, _, _, _, _, _, _ => noAskings
  | depth + 1, engines, engine, file, data, context, bindings =>
    bindAskings (createTemplate engines engine file data none none) noAskings fun t =>
      bindAskings readClock noAskings fun _ =>
        classAskings ⟨t, context, some (bindings.getD [])⟩
          (fun engines engine data =>
            render depth engines engine t.file data context (some (bindings.getD [])))
          (fun engines engine data =>
            renderAskings depth engines engine t.file data context (some (bindings.getD []))) t.cls

/-- The askings of the evaluation of a template. -/
def evaluateAskings (depth : Nat) (t : Template) (context : Json) (bindings : Option Bindings) :
    Session → List Asking :=
  classAskings ⟨t, context, bindings⟩
    (fun engines engine data => render depth engines engine t.file data context bindings)
    (fun engines engine data => renderAskings depth engines engine t.file data context bindings)
    t.cls

/-- The askings of a step on a loader. -/
def loaderAskings (on : String) : LoaderStep → Session → List Asking
  | .require name file => bindAskings (loaderAt on) noAskings fun l => asks l name file .require
  | .tryRequire name file =>
    bindAskings (loaderAt on) noAskings fun l => asks l name file .tryRequire
  | .loadLibrary name file libraries =>
    bindAskings (loaderAt on) noAskings fun l =>
      bindAskings (librariesAt libraries) noAskings fun ref => asks l name file (.load ref)

/-- The askings of a step on a template. -/
def templateAskings (on : String) : TemplateStep → Session → List Asking
  | .evaluate context bindings =>
    bindAskings (templateAt on) noAskings fun t => evaluateAskings depthLimit t context bindings
  | .require name =>
    bindAskings (templateAt on) noAskings fun t => asks t.loader name t.fileValue .require
  | .tryRequire name =>
    bindAskings (templateAt on) noAskings fun t => asks t.loader name t.fileValue .tryRequire
  | .loadLibrary name =>
    bindAskings (templateAt on) noAskings fun t =>
      asks t.loader name t.fileValue (.load t.libraries)
  | _ => noAskings

/-- The askings of a step. -/
def stepAskings : Step → Session → List Asking
  | .loader on step => loaderAskings on step
  | .template on step => templateAskings on step
  | .engines on (.render name file data context bindings) =>
    bindAskings (enginesAt on) noAskings fun id =>
      bindAskings (evalPayload data) noAskings fun data =>
        renderAskings depthLimit id name file data context bindings
  | _ => noAskings

/-- The askings of steps in order. -/
def allAskings : List Request → Session → List Asking
  | [], _ => []
  | r :: rest, s => stepAskings r.step { s with log := [] } ++ allAskings rest (answer r s).2

end Session

end AssetPipeline
