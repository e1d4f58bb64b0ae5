/-
AssetPipeline/Proofs/Session/Manner.lean

Evaluations with two places left open.

What a body puts for its file, and what is done where no class says how to evaluate, are given from
outside (`Manner`).  An engine has a manner of its own; in that one, these are the evaluations and
the renders of the session (`evaluateAsIn_own`, `renderIn_own`).  What is proved of all manners that
agree in one of the two places says what this place makes no difference to.
-/
import AssetPipeline.Proofs.Session.Congruence

namespace AssetPipeline.Session

/-- What is done in the two places that are left open. -/
structure Manner where
  /-- What a body puts for the file of its template. -/
  shown : Option File → Json
  /-- How to evaluate where no class says how. -/
  unsaid : Call → Run Payload

/-- The manner of engines. -/
def Manner.own : Manner where
  shown := File.toJsonOptional
  unsaid call := raise (.evaluateMissing call.template.cls.name)

section
variable (m : Manner)

/-- Do one action. -/
def doActionIn (call : Call) (base : Run Payload)
    (nested : Nat → String → Payload → Run Payload) : Action → Run Unit
  | .putFile => put call.template (m.shown call.template.fileValue)
  | action => doAction call base nested action

/-- Do the actions of a body in order. -/
def runBodyIn (call : Call) (base : Run Payload)
    (nested : Nat → String → Payload → Run Payload) : List Action → Run Payload
  | [] => payloadOf call.template
  | .finish data :: _ => evalPayload data
  | action :: rest => do
    doActionIn m call base nested action
    runBodyIn call base nested rest

/-- Evaluate as a class does. -/
def evaluateAsIn (call : Call) (nested : Nat → String → Payload → Run Payload) :
    EngineClass → Run Payload
  | .root => evaluateAs call nested .root
  | .template => m.unsaid call
  | .derived own base =>
    match own.body with
    | some actions => runBodyIn m call (evaluateAsIn call nested base) nested actions
    | none => evaluateAsIn call nested base

/-- Render data for a file by the engine of this name. -/
def renderIn : (depth engines : Nat) → (engine : String) → Option (Traced File) → Payload →
    Json → Option Bindings → Run Payload
  | 0, _, _, _, _, _, _ => throw .tooDeep
  | depth + 1, engines, engine, file, data, context, bindings => do
    let t ← createTemplate engines engine file data none none
    let bindings := bindings.getD []
    let nested := fun engines engine data =>
      renderIn depth engines engine t.file data context (some bindings)
    measured engine (file.map Traced.value)
      (evaluateAsIn m ⟨t, context, some bindings⟩ nested t.cls)

/-- The renders that an evaluation starts. -/
def nestedIn (depth : Nat) (call : Call) (engines : Nat) (engine : String) (data : Payload) :
    Run Payload :=
  renderIn m depth engines engine call.template.file data call.context call.bindings

/-- Evaluate a template. -/
def evaluateIn (depth : Nat) (t : Template) (context : Json) (bindings : Option Bindings) :
    Run Payload :=
  evaluateAsIn m ⟨t, context, bindings⟩ (nestedIn m depth ⟨t, context, bindings⟩) t.cls

/-- A render is the making of a template and one evaluation, which is measured. -/
theorem renderIn_succ (depth engines : Nat) (engine : String) (file : Option (Traced File))
    (data : Payload) (context : Json) (bindings : Option Bindings) :
    renderIn m (depth + 1) engines engine file data context bindings =
      (createTemplate engines engine file data none none >>= fun t =>
        measured engine (file.map Traced.value)
          (evaluateIn m depth t context (some (bindings.getD [])))) := rfl

/-- An action that does not end the body is done before the rest. -/
theorem runBodyIn_cons {call : Call} {base : Run Payload}
    {nested : Nat → String → Payload → Run Payload} {action : Action} (rest : List Action)
    (h : ∀ data, action ≠ .finish data) :
    runBodyIn m call base nested (action :: rest) =
      (doActionIn m call base nested action >>= fun _ => runBodyIn m call base nested rest) := by
  cases action with
  | finish data => exact absurd rfl (h data)
  | _ => rfl

end

/-! ### The manner of engines -/

variable {call : Call} {base : Run Payload} {nested : Nat → String → Payload → Run Payload}

theorem doActionIn_own (action : Action) :
    doActionIn .own call base nested action = doAction call base nested action := by
  cases action <;> rfl

theorem runBodyIn_own (actions : List Action) :
    runBodyIn .own call base nested actions = runBody call base nested actions := by
  induction actions with
  | nil => rfl
  | cons action rest ih =>
    cases action with
    | finish data => rfl
    | _ =>
      rw [runBodyIn, runBody, doActionIn_own, ih]
      all_goals exact nofun

/-- **In their own manner, classes evaluate as they do.** -/
theorem evaluateAsIn_own (cls : EngineClass) :
    evaluateAsIn .own call nested cls = evaluateAs call nested cls := by
  induction cls with
  | root => rfl
  | template => rfl
  | derived own base ih =>
    rw [evaluateAsIn, evaluateAs, ih]
    cases own.body with
    | none => rfl
    | some actions => exact runBodyIn_own actions

/-- **So do engines render.** -/
theorem renderIn_own (depth engines : Nat) (engine : String) (file : Option (Traced File))
    (data : Payload) (context : Json) (bindings : Option Bindings) :
    renderIn .own depth engines engine file data context bindings =
      render depth engines engine file data context bindings := by
  induction depth generalizing engines engine file data bindings with
  | zero => rfl
  | succ depth ih =>
    rw [renderIn_succ, render_succ]
    refine bind_congr fun t => ?_
    rw [evaluateIn, evaluateAsIn_own]
    have hnested : nestedIn .own depth ⟨t, context, some (bindings.getD [])⟩ =
        fun engines engine data =>
          render depth engines engine t.file data context (some (bindings.getD [])) := by
      funext engines engine data
      exact ih engines engine t.file data (some (bindings.getD []))
    rw [hnested]
    rfl

theorem nestedIn_own (depth : Nat) (call : Call) :
    nestedIn .own depth call = fun engines engine data =>
      render depth engines engine call.template.file data call.context call.bindings := by
  funext engines engine data
  exact renderIn_own depth engines engine call.template.file data call.context call.bindings

theorem evaluateIn_own (depth : Nat) (t : Template) (context : Json)
    (bindings : Option Bindings) :
    evaluateIn .own depth t context bindings = evaluate depth t context bindings := by
  rw [evaluateIn, evaluateAsIn_own, nestedIn_own]
  rfl

end AssetPipeline.Session
