/-
AssetPipeline/Session/Perform.lean

What the steps of a session do.

Each step gives an object.  The object that a step is done to is looked up first, then
what the step is given, a payload before any handle, and only then is anything done.
Where something is assigned, the new value comes even before the object.
-/
import AssetPipeline.Evaluator
import AssetPipeline.Session.Step

namespace AssetPipeline

namespace Session

/-- How deep renders may be nested. -/
def depthLimit : Nat := 1000

/-- Plain data, made just now. -/
def made (value : Json) : Run Object := return .ofJson value (← freshId)

/-! ### Handles that may be absent -/

/-- The store under a handle; no handle, or nothing bound to it, gives no store. -/
def optionalLibraries : Option String → Run (Option LibrariesRef)
  | none => return none
  | some name => do
    match ← handle name with
    | .plain ⟨.null, _⟩ => return none
    | _ => return some (← librariesAt name)

/-- The loader under a handle; no handle, or nothing bound to it, gives no loader. -/
def optionalLoader : Option String → Run (Option Loader)
  | none => return none
  | some name => do
    match ← handle name with
    | .plain ⟨.null, _⟩ => return none
    | _ => return some (← loaderAt name)

/-! ### Modules -/

/-- Do a step on the modules. -/
def performModules : ModuleStep → Run Object
  | .install name body => do
    modify fun s => { s with installed := s.installed.put name body }
    return .null
  | .uninstall name => do
    modify fun s => { s with installed := s.installed.erase name }
    return .null
  | .unload name => do
    let s ← get
    set { s with cache := s.cache.drop name }
    return .ofBool (s.cache.hasModule name)
  | .block name => do
    modify fun s => { s with cache := s.cache.block name }
    return .null

/-! ### Engines -/

/-- What is offered: a class, or something else as it is shown. -/
def evalOffer : Offer → Run Candidate
  | .cls id => return .cls (← classOf id)
  | .value value => do
    match ← evalLibrary value with
    | .cls c => return .cls c
    | other => return .other (other.inspect (← get).inspectStore)

/-- Replace the content of a registry. -/
def setEngines (id : Nat) (e : Engines) : Run Unit :=
  modify fun s => { s with engines := s.engines.put id e }

/-- Register a candidate, write that down, and give the class. -/
def register (id : Nat) (name : String) (candidate : Candidate) (extensions : List String) :
    Run EngineClass := do
  match ((← get).registry id).register name candidate extensions with
  | .ok (c, e) => do
    setEngines id e
    record (.engineRegistered c.name name)
    return c
  | .error why => raise (.engineRefused why)

/-- Do a step on a registry of engines. -/
def performEngines (on : String) : EnginesStep → Run Object
  | .register name offer extensions => do
    let id ← enginesAt on
    let _ ← register id name (← evalOffer offer) extensions
    return .null
  | .add name offer extensions => do
    let id ← enginesAt on
    return .cls (← register id name (← evalOffer offer) extensions)
  | .unregister name => do
    let id ← enginesAt on
    setEngines id (((← get).registry id).unregister name)
    return .null
  | .get name => do
    let id ← enginesAt on
    return .ofOption ((((← get).registry id).get? name).map .cls)
  | .has name => do
    let id ← enginesAt on
    return .ofBool (((← get).registry id).has name)
  | .resolve name => do
    let id ← enginesAt on
    return .cls (← ofExcept (((← get).registry id).resolve name))
  | .names => do
    let id ← enginesAt on
    made (Json.strings ((← get).registry id).names)
  | .extensions => do
    let id ← enginesAt on
    let pairs := ((← get).registry id).extensions.entries
    made (.array (pairs.map fun p => Json.strings [p.1, p.2]))
  | .forFile file => do
    let id ← enginesAt on
    let location ← locate file
    return .cls (← ofExcept (((← get).registry id).forLocation location))
  | .create name file data libraries loader => do
    let id ← enginesAt on
    let data ← evalPayload data
    let libraries ← optionalLibraries libraries
    let loader ← optionalLoader loader
    return .template (← createTemplate id name file data libraries loader)
  | .render name file data context bindings => do
    let id ← enginesAt on
    let data ← evalPayload data
    return .ofPayload (← render depthLimit id name file data context bindings)

/-! ### Libraries -/

/-- Do a step on a store of libraries. -/
def performLibraries (on : String) : LibrariesStep → Run Object
  | .get name default => do
    let ref ← librariesAt on
    let default ← evalLibrary default
    return ((← readStore ref).get? name).getD default
  | .has name => do
    let ref ← librariesAt on
    return .ofBool ((← readStore ref).contains name)
  | .set name value => do
    let ref ← librariesAt on
    setLibrary ref name (← evalLibrary value)
    return .null
  | .assign name value => do
    let library ← evalLibrary value
    let ref ← librariesAt on
    setLibrary ref name library
    return .null
  | .names => do
    let ref ← librariesAt on
    made (Json.strings (← readStore ref).keys)
  | .size => do
    let ref ← librariesAt on
    made (.int (← readStore ref).size)
  | .isNonempty => do
    let ref ← librariesAt on
    return .ofBool ((← readStore ref).size != 0)
  | .clear => do
    let ref ← librariesAt on
    writeStore ref Dict.empty
    return .null
  | .inspect => do
    let ref ← librariesAt on
    made (.str ((← get).inspectStore ref))
  | .ensure name factory => do
    let ref ← librariesAt on
    let calls := if (← readStore ref).contains name then 0 else 1
    let library ← ensureLibrary ref name (runFactory ref factory)
    return .filled (← freshId) library calls

/-! ### Loaders and results -/

/-- A new result object. -/
def newResult (value : Object) (fault : Option Fault) : Run Object :=
  return .result (← freshId) value fault

/-- The result of an attempt as an object. -/
def resultObject (r : LoadResult Module) : Run Object :=
  newResult (.ofOption (r.value.map .module)) r.fault

/-- Do a step on a loader. -/
def performLoader (on : String) : LoaderStep → Run Object
  | .require name file => do
    let l ← loaderAt on
    return .module (← require l name file)
  | .tryRequire name file => do
    let l ← loaderAt on
    resultObject (← tryRequire l name file)
  | .loadLibrary name file libraries => do
    let l ← loaderAt on
    let ref ← librariesAt libraries
    loadLibrary l name file ref

/-- What a result object holds. -/
def heldBy (value : Object) (fault : Option Fault) : LoadResult Object :=
  ⟨match value with
    | .plain ⟨.null, _⟩ => none
    | other => some other, fault⟩

/-- Do a step on a result. -/
def performResult (on : String) (step : ResultStep) : Run Object := do
  match ← handle on, step with
  | .result _ value fault, .unwrap => ofExcept (heldBy value fault).unwrap
  | r@(.result ..), .read => return r
  | r@(.result ..), .equals other => return .ofBool (r.equals (← handle other))
  | .result .., .assign field => raise (.frozenField field)
  | _, _ => raise (.wrongObject on "result")

/-! ### Templates and classes -/

/-- The members of a template, as an evaluator has them. -/
def membersOf (t : Template) (data : Payload) : Evaluator.Members :=
  [("file", File.toJsonOptional t.fileValue), ("data", data.toJson), ("evaluate", .bool true)]

/-- Do a step on a template. -/
def performTemplate (on : String) : TemplateStep → Run Object
  | .file => do
    let t ← templateAt on
    return .ofOption (t.file.map .ofFile)
  | .assignFile => do
    let t ← templateAt on
    raise (.fixedFile t.cls.name)
  | .data => do
    let t ← templateAt on
    return .ofPayload (← payloadOf t)
  | .setData data => do
    let data ← evalPayload data
    let t ← templateAt on
    setPayload t data
    return .null
  | .evaluate context bindings => do
    let t ← templateAt on
    return .ofPayload (← evaluate depthLimit t context bindings)
  | .require name => do
    let t ← templateAt on
    return .module (← require t.loader name t.fileValue)
  | .tryRequire name => do
    let t ← templateAt on
    resultObject (← tryRequire t.loader name t.fileValue)
  | .loadLibrary name => do
    let t ← templateAt on
    loadLibrary t.loader name t.fileValue t.libraries
  | .inspect => do
    let t ← templateAt on
    made (.str t.inspect)
  | .mime => do
    let t ← templateAt on
    return .ofOption (t.cls.mime?.map .plain)
  | .librariesAre libraries => do
    let t ← templateAt on
    return .ofBool ((Object.libraries t.libraries).same (← handle libraries))
  | .isEvaluator => do
    let t ← templateAt on
    return .ofBool (Evaluator.isEvaluator false (membersOf t (← payloadOf t)))

/-- Do a step on a class. -/
def performClass (id : String) : ClassStep → Run Object
  | .mime => do
    let c ← classOf id
    match c.mime? with
    | some mime => return .plain mime
    | none => raise (.absentTrait c.name "default_mime_type")
  | .librariesAre libraries => do
    let c ← classOf id
    match c.libraries? with
    | some own => return .ofBool ((Object.libraries own).same (← handle libraries))
    | none => raise (.absentTrait c.name "libs")

/-! ### All steps -/

/-- A loader with a configuration read from plain data, or with none. -/
def newLoader (config : Option Json) : Run Object := do
  let config ← match config with
    | none => pure Config.default
    | some value =>
      match Config.read value with
      | .ok config => pure config
      | .error violations => raise (.invalidConfig violations)
  return .loader (← freshId) ⟨config⟩

/-- Do a step. -/
def performStep : Step → Run Object
  | .modules step => performModules step
  | .newEngines => do
    let id ← freshId
    setEngines id .empty
    return .engines id
  | .engines on step => performEngines on step
  | .newLibraries title => return .libraries (← newStore title)
  | .libraries on step => performLibraries on step
  | .newLoader config => newLoader config
  | .loader on step => performLoader on step
  | .newResult value fault => do
    let value ← evalLibrary value
    newResult value (← ofExcept fault)
  | .result on step => performResult on step
  | .newTemplate cls file data libraries loader => do
    let cls ← classOf cls
    let data ← evalPayload data
    let libraries ← optionalLibraries libraries
    let loader ← optionalLoader loader
    return .template (← newTemplate cls file data libraries loader)
  | .template on step => performTemplate on step
  | .cls id step => performClass id step
  | .same first second => do
    let a ← handle first
    let b ← handle second
    return .ofBool (a.same b)

end Session

end AssetPipeline
