/-
AssetPipeline/Session/Evaluate.lean

Making templates, evaluating them, and rendering.

Evaluation goes up the chain of classes to the nearest one that says how; an action
of a body may go on from there to the class above, and may render other data by any
registry.  A render makes a template, evaluates it once, and writes down how long
that took.  Renders nest up to a given depth; a program that would go deeper stops
in a way of its own.
-/
import AssetPipeline.Session.Library

namespace AssetPipeline

/-- The variables of a render, by name. -/
abbrev Bindings := List (String × Traced Json)

/-- What an evaluation is given. -/
structure Call where
  template : Template
  context : Json
  /-- The variables, if there are any to be had. -/
  bindings : Option Bindings
  deriving DecidableEq

namespace Call

/-- The value of a variable. -/
def lookupVariable (call : Call) (key : String) : Except Fault (Traced Json) :=
  match (call.bindings.getD []).lookup key with
  | some value => .ok value
  | none => .error (.absentKey key)

/-- The sorted names of the variables, null if there are none to be had. -/
def variableNames (call : Call) : Json :=
  match call.bindings with
  | some bindings => Json.strings (sortTexts (bindings.map Prod.fst))
  | none => .null

end Call

namespace Session

/-! ### Templates -/

/-- Make a template of a class. -/
def newTemplate (cls : EngineClass) (file : Option (Traced File)) (data : Payload)
    (libraries : Option LibrariesRef) (loader : Option Loader) : Run Template := do
  if !cls.isEngine then
    raise (.noArguments cls.name)
  let t : Template :=
    { id := ← freshId
      cls := cls
      file := file
      libraries := Template.chooseLibraries cls libraries
      loader := loader.getD ⟨.default⟩ }
  modify fun s => { s with payloads := s.payloads.put t.id data }
  return t

/-- The payload of a template. -/
def payloadOf (t : Template) : Run Payload := return (← get).payloads.getD t.id .empty

/-- Replace the payload of a template. -/
def setPayload (t : Template) (data : Payload) : Run Unit :=
  modify fun s => { s with payloads := s.payloads.put t.id data }

/-- The payload that is written down. -/
def evalPayload : PayloadValue → Run Payload
  | .text data => return .text data
  | .bytes digits =>
    match Text.readHex digits with
    | .ok value => return .bytes (.ofBytes value (.made (← freshId)))
    | .error position => raise (.notHexadecimal position)

/-- Put a text behind the payload of a template; what has to be made for that, the text included, is
the object with the number that `text` is given. -/
def putTraced (t : Template) (text : Nat → Traced String) : Run Unit := do
  let id ← freshId
  setPayload t ((← payloadOf t).append (text id) id)

/-- Put plain data, as it is shown, behind the payload of a template. -/
def put (t : Template) (value : Json) : Run Unit :=
  putTraced t fun id => ⟨value.bracketed, .made id⟩

/-- The content of a registry. -/
def registry (s : Session) (id : Nat) : Engines := s.engines.getD id .empty

/-- Make a template of the engine of this name. -/
def createTemplate (engines : Nat) (engine : String) (file : Option (Traced File))
    (data : Payload) (libraries : Option LibrariesRef) (loader : Option Loader) :
    Run Template := do
  let cls ← ofExcept (((← get).registry engines).resolve engine)
  newTemplate cls file data libraries loader

/-! ### Bodies -/

/-- Do one action.  `base` evaluates as the class above does, `nested` renders data for the same
file by a registry. -/
def doAction (call : Call) (base : Run Payload) (nested : Nat → String → Payload → Run Payload) :
    Action → Run Unit
  | .append text => putTraced call.template fun _ => text
  | .setData data => do
    setPayload call.template (← evalPayload data)
  | .putVariable key => do
    let value ← ofExcept (call.lookupVariable key)
    putTraced call.template value.display
  | .putVariables => put call.template call.variableNames
  | .putContext => put call.template call.context
  | .putFile => put call.template (File.toJsonOptional call.template.fileValue)
  | .require name => do
    let m ← require call.template.loader name call.template.fileValue
    put call.template m.toJson
  | .loadLibrary name => do
    let library ← loadLibrary call.template.loader name call.template.fileValue
      call.template.libraries
    put call.template library.toJson
  | .tryRequire name => do
    let result ← tryRequire call.template.loader name call.template.fileValue
    put call.template (.bool result.ok)
  | .getLibrary name => do
    let library ← getLibrary call.template.libraries name
    put call.template library.toJson
  | .setLibrary name value => do
    setLibrary call.template.libraries name (← evalLibrary value)
  | .raise fault => raise fault
  | .callBase => do
    let result ← base
    putTraced call.template result.inlined
  | .render engines engine data => do
    let id ← enginesAt engines
    let result ← nested id engine (← evalPayload data)
    putTraced call.template result.inlined
  | .finish _ => return ()

/-- Do the actions of a body in order; the result is the payload at the end, unless an action gives
one before. -/
def runBody (call : Call) (base : Run Payload)
    (nested : Nat → String → Payload → Run Payload) : List Action → Run Payload
  | [] => payloadOf call.template
  | .finish data :: _ => evalPayload data
  | action :: rest => do
    doAction call base nested action
    runBody call base nested rest

/-- Evaluate as a class does: by its own body, or else as the class above it does. -/
def evaluateAs (call : Call) (nested : Nat → String → Payload → Run Payload) :
    EngineClass → Run Payload
  | .root => raise (.absentTrait EngineClass.root.name "evaluate")
  | .template => raise (.evaluateMissing call.template.cls.name)
  | .derived own base =>
    match own.body with
    | some actions => runBody call (evaluateAs call nested base) nested actions
    | none => evaluateAs call nested base

/-! ### Rendering -/

/-- The location of a file; nothing has none. -/
def locate : Option File → Run String
  | some file => return file.location
  | none => raise .noFile

/-- What is written down, and what comes out, when an evaluation that was started at `start` has
ended.  An interruption passes without a record. -/
def finishRender (engine : String) (file : Option File) (start : Float) :
    Except Halt Payload → Run Payload
  | .ok result => do
    let stop ← readClock
    record (.rendered engine (← locate file) (.between start stop))
    return result
  | .error (.fault f) => do
    if !f.isInterruption then
      let stop ← readClock
      record (.renderFailed engine (← locate file) (.between start stop) f)
    raise f
  | .error .tooDeep => throw .tooDeep

/-- Render data for a file by the engine of this name: make a template, evaluate it once with
variables, and write down how that went.  `depth` bounds the nesting. -/
def render : (depth engines : Nat) → (engine : String) → Option (Traced File) → Payload →
    Json → Option Bindings → Run Payload
  | 0, _, _, _, _, _, _ => throw .tooDeep
  | depth + 1, engines, engine, file, data, context, bindings => do
    let t ← createTemplate engines engine file data none none
    let start ← readClock
    let bindings := bindings.getD []
    let nested := fun engines engine data =>
      render depth engines engine t.file data context (some bindings)
    let outcome ← observe (evaluateAs ⟨t, context, some bindings⟩ nested t.cls)
    finishRender engine (file.map Traced.value) start outcome

/-- Evaluate a template; `depth` bounds the nesting of renders. -/
def evaluate (depth : Nat) (t : Template) (context : Json) (bindings : Option Bindings) :
    Run Payload :=
  let nested := fun engines engine data =>
    render depth engines engine t.file data context bindings
  evaluateAs ⟨t, context, bindings⟩ nested t.cls

end Session

end AssetPipeline
