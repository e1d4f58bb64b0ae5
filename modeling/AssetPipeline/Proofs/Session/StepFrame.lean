/-
AssetPipeline/Proofs/Session/StepFrame.lean

What the steps of a session leave alone.

Most steps look something up, make new objects, require dependencies, or change a payload.
Steps that ask a result or a class something only look.  The other exceptions are few:
registrations and their ends, what puts something into a store of libraries, and what
evaluates templates, which is rendering and evaluating (`isRender`, `isStoring`, `isOuter`).
A relation that overlooks stores and renders is kept by them, too.

Main statements: `views_performResult` and `views_performClass` for steps that only look,
`keeps_performEngines`, `keeps_performLibraries`, `keeps_performLoader` and
`keeps_performTemplate` for the others, and `keeps_declareClass` for declarations.
-/
import AssetPipeline.Proofs.Session.Frame

namespace AssetPipeline

/-- Whether a registry is asked to render. -/
def EnginesStep.isRender : EnginesStep → Bool
  | .render .. => true
  | _ => false

/-- Whether a store may be asked to change. -/
def LibrariesStep.isStoring : LibrariesStep → Bool
  | .set .. | .assign .. | .clear | .ensure .. => true
  | _ => false

/-- Whether a store may be changed for a loader. -/
def LoaderStep.isStoring : LoaderStep → Bool
  | .loadLibrary .. => true
  | _ => false

/-- Whether a template is asked for what may go beyond it, to its store or to renders. -/
def TemplateStep.isOuter : TemplateStep → Bool
  | .evaluate .. | .loadLibrary _ => true
  | _ => false

namespace Session

variable {R : Session → Session → Prop}

/-! ### Steps that only look -/

theorem views_performResult (on : String) (step : ResultStep) : Views (performResult on step) := by
  refine (views_handle on).bind fun o => ?_
  split
  · exact .ofExcept _
  · exact .pure _
  · exact (views_handle _).bind fun _ => .pure _
  · exact .raise _
  · exact .raise _

theorem views_performClass (id : String) (step : ClassStep) : Views (performClass id step) := by
  cases step with
  | mime =>
    refine (views_classOf id).bind fun c => ?_
    split
    · exact .pure _
    · exact .raise _
  | librariesAre libraries =>
    refine (views_classOf id).bind fun c => ?_
    split
    · exact (views_handle libraries).bind fun _ => .pure _
    · exact .raise _

theorem views_compared (first second : String) : Views (performStep (.same first second)) := by
  refine (views_handle first).bind fun a => ?_
  exact (views_handle second).bind fun b => .pure _

/-! ### Modules -/

/-- A step on the modules changes what is installed or what is loaded. -/
theorem keeps_performModules
    (h : ∀ (s : Session) installed cache, R s { s with installed := installed, cache := cache })
    (step : ModuleStep) : Keeps R (performModules step) := by
  cases step <;> exact fun s => h s _ _

/-! ### Other steps -/

section
variable [Lenient R]

/-- What is kept by registrations and their ends is kept by all that is asked of a registry, but for
renders. -/
theorem keeps_performEngines (on : String) {step : EnginesStep} (h : step.isRender = false)
    (hregister : ∀ id name candidate extensions, Keeps R (register id name candidate extensions))
    (hend : ∀ id name s, R s
      { s with engines := s.engines.put id ((s.registry id).unregister name) }) :
    Keeps R (performEngines on step) := by
  cases step with
  | register name offer extensions =>
    refine (views_enginesAt on).keeps.bind fun id => ?_
    refine (views_evalOffer offer).keeps.bind fun candidate => ?_
    exact (hregister id name candidate extensions).bind fun _ => .pure _
  | add name offer extensions =>
    refine (views_enginesAt on).keeps.bind fun id => ?_
    refine (views_evalOffer offer).keeps.bind fun candidate => ?_
    exact (hregister id name candidate extensions).bind fun _ => .pure _
  | unregister name => exact (views_enginesAt on).keeps.bind fun id => hend id name
  | create name file data libraries loader =>
    refine (views_enginesAt on).keeps.bind fun id => ?_
    refine (keeps_evalPayload data).bind fun data => ?_
    refine (views_optionalLibraries libraries).keeps.bind fun libraries => ?_
    refine (views_optionalLoader loader).keeps.bind fun loader => ?_
    exact (keeps_createTemplate _ _ _ _ _ _).bind fun _ => .pure _
  | resolve name =>
    refine (views_enginesAt on).keeps.bind fun id => ?_
    exact Keeps.get.bind fun _ => Keeps.bind (.ofExcept _) fun _ => .pure _
  | forFile file =>
    refine (views_enginesAt on).keeps.bind fun id => ?_
    refine (views_locate file).keeps.bind fun location => ?_
    exact Keeps.get.bind fun _ => Keeps.bind (.ofExcept _) fun _ => .pure _
  | get name => exact (views_enginesAt on).keeps.bind fun _ => Keeps.get.bind fun _ => .pure _
  | has name => exact (views_enginesAt on).keeps.bind fun _ => Keeps.get.bind fun _ => .pure _
  | names =>
    refine (views_enginesAt on).keeps.bind fun _ => ?_
    exact Keeps.get.bind fun _ => keeps_made _
  | extensions =>
    refine (views_enginesAt on).keeps.bind fun _ => ?_
    exact Keeps.get.bind fun _ => keeps_made _
  | render name file data context bindings => cases h

theorem keeps_performLibraries (on : String) {step : LibrariesStep} (h : step.isStoring = false) :
    Keeps R (performLibraries on step) := by
  cases step with
  | get name default =>
    refine (views_librariesAt on).keeps.bind fun ref => ?_
    refine (views_evalLibrary default).keeps.bind fun default => ?_
    exact (views_readStore ref).keeps.bind fun _ => .pure _
  | has name =>
    refine (views_librariesAt on).keeps.bind fun ref => ?_
    exact (views_readStore ref).keeps.bind fun _ => .pure _
  | names =>
    refine (views_librariesAt on).keeps.bind fun ref => ?_
    exact (views_readStore ref).keeps.bind fun _ => keeps_made _
  | size =>
    refine (views_librariesAt on).keeps.bind fun ref => ?_
    exact (views_readStore ref).keeps.bind fun _ => keeps_made _
  | isNonempty =>
    refine (views_librariesAt on).keeps.bind fun ref => ?_
    exact (views_readStore ref).keeps.bind fun _ => .pure _
  | inspect =>
    refine (views_librariesAt on).keeps.bind fun ref => ?_
    exact Keeps.get.bind fun _ => keeps_made _
  | set name value => cases h
  | assign name value => cases h
  | clear => cases h
  | ensure name factory => cases h

theorem keeps_performLoader (on : String) {step : LoaderStep} (h : step.isStoring = false) :
    Keeps R (performLoader on step) := by
  cases step with
  | require name file =>
    refine (views_loaderAt on).keeps.bind fun l => ?_
    exact (keeps_require l name file).bind fun _ => .pure _
  | tryRequire name file =>
    refine (views_loaderAt on).keeps.bind fun l => ?_
    exact (keeps_tryRequire l name file).bind fun _ => keeps_newResult _ _
  | loadLibrary name file libraries => cases h

theorem keeps_performTemplate (on : String) {step : TemplateStep} (h : step.isOuter = false) :
    Keeps R (performTemplate on step) := by
  cases step with
  | setData data =>
    refine (keeps_evalPayload data).bind fun data => ?_
    refine (views_templateAt on).keeps.bind fun t => ?_
    exact (keeps_setPayload t data).bind fun _ => .pure _
  | file => exact (views_templateAt on).keeps.bind fun _ => .pure _
  | assignFile => exact (views_templateAt on).keeps.bind fun _ => .raise _
  | data =>
    refine (views_templateAt on).keeps.bind fun t => ?_
    exact (views_payloadOf t).keeps.bind fun _ => .pure _
  | require name =>
    refine (views_templateAt on).keeps.bind fun t => ?_
    exact (keeps_require _ _ _).bind fun _ => .pure _
  | tryRequire name =>
    refine (views_templateAt on).keeps.bind fun t => ?_
    exact (keeps_tryRequire _ _ _).bind fun _ => keeps_newResult _ _
  | inspect => exact (views_templateAt on).keeps.bind fun t => keeps_made _
  | mime => exact (views_templateAt on).keeps.bind fun _ => .pure _
  | librariesAre libraries =>
    refine (views_templateAt on).keeps.bind fun t => ?_
    exact (views_handle libraries).keeps.bind fun _ => .pure _
  | isEvaluator =>
    refine (views_templateAt on).keeps.bind fun t => ?_
    exact (views_payloadOf t).keeps.bind fun _ => .pure _
  | evaluate context bindings => cases h
  | loadLibrary name => cases h

theorem keeps_madeTemplate (cls : String) (file : Option (Traced File)) (data : PayloadValue)
    (libraries loader : Option String) :
    Keeps R (performStep (.newTemplate cls file data libraries loader)) := by
  refine (views_classOf cls).keeps.bind fun cls => ?_
  refine (keeps_evalPayload data).bind fun data => ?_
  refine (views_optionalLibraries libraries).keeps.bind fun libraries => ?_
  refine (views_optionalLoader loader).keeps.bind fun loader => ?_
  exact (keeps_newTemplate _ _ _ _ _).bind fun _ => .pure _

theorem keeps_madeResult (value : LibraryValue) (fault : Except Fault (Option Fault)) :
    Keeps R (performStep (.newResult value fault)) := by
  refine (views_evalLibrary value).keeps.bind fun value => ?_
  exact Keeps.bind (.ofExcept fault) fun fault => keeps_newResult value fault

/-! ### Declarations -/

theorem views_baseNamed (name : String) : Views (baseNamed name) := by
  unfold baseNamed
  split
  · exact .pure _
  · split
    · exact .pure _
    · exact views_classOf _

/-- A declaration makes a store, if it makes any, and a class. -/
theorem keeps_declareClass (hstore : ∀ title, Keeps R (newStore title)) (d : ClassDecl) :
    Keeps R (declareClass d) := by
  have hlibraries : Keeps R (declareLibraries d.libraries) := by
    rcases d.libraries with _ | name
    · exact .pure none
    · refine (hstore _).bind fun ref => ?_
      exact (keeps_bindHandle name _).bind fun _ => .pure _
  refine (views_baseNamed d.base).keeps.bind fun base => hlibraries.bind fun libraries => ?_
  exact keeps_freshId.bind fun tag => fun s => Lenient.overlook s _ _ _ _

end

/-! ### Steps that write to stores -/

section
variable [OverlooksStores R]

theorem OverlooksStores.keeps_performLibraries (on : String) (step : LibrariesStep) :
    Keeps R (performLibraries on step) := by
  cases step with
  | assign name value =>
    refine (views_evalLibrary value).keeps.bind fun library => ?_
    refine (views_librariesAt on).keeps.bind fun ref => ?_
    exact (keeps_setLibrary ref name library).bind fun _ => .pure _
  | set name value =>
    refine (views_librariesAt on).keeps.bind fun ref => ?_
    refine (views_evalLibrary value).keeps.bind fun library => ?_
    exact (keeps_setLibrary ref name library).bind fun _ => .pure _
  | clear =>
    refine (views_librariesAt on).keeps.bind fun ref => ?_
    exact (keeps_writeStore ref _).bind fun _ => .pure _
  | ensure name factory =>
    refine (views_librariesAt on).keeps.bind fun ref => ?_
    refine (views_readStore ref).keeps.bind fun content => ?_
    refine (keeps_ensureLibrary ref name (keeps_runFactory ref factory)).bind fun library => ?_
    exact keeps_freshId.bind fun _ => .pure _
  | _ => exact Session.keeps_performLibraries on rfl

theorem OverlooksStores.keeps_performLoader (on : String) (step : LoaderStep) :
    Keeps R (performLoader on step) := by
  cases step with
  | loadLibrary name file libraries =>
    refine (views_loaderAt on).keeps.bind fun l => ?_
    exact (views_librariesAt libraries).keeps.bind fun ref => keeps_loadLibrary l name file ref
  | _ => exact Session.keeps_performLoader on rfl

end

/-! ### Steps that evaluate templates -/

theorem OverlooksRenders.keeps_performTemplate [OverlooksRenders R] (on : String)
    (step : TemplateStep) : Keeps R (performTemplate on step) := by
  cases step with
  | evaluate context bindings =>
    refine (views_templateAt on).keeps.bind fun t => ?_
    exact (keeps_evaluate depthLimit t context bindings).bind fun _ => .pure _
  | loadLibrary name =>
    exact (views_templateAt on).keeps.bind fun t => keeps_loadLibrary _ _ _ _
  | _ => exact Session.keeps_performTemplate on rfl

end Session

end AssetPipeline
