/-
AssetPipeline/Session/Step.lean

The steps of a session: what a caller may ask, by the kind of object that is asked.

Objects are named by handles.  A step that makes an object, or answers one, may give
it a handle.
-/
import AssetPipeline.Session.Evaluate

namespace AssetPipeline

/-- What is done to the modules. -/
inductive ModuleStep where
  /-- Install a module, or another one under the same name. -/
  | install (name : String) (body : ModuleBody)
  /-- Take a module from the installed ones; a loaded one stays loaded. -/
  | uninstall (name : String)
  /-- Take a name out of the cache; the answer is whether it was a loaded module. -/
  | unload (name : String)
  /-- Bar a name. -/
  | block (name : String)

/-- What is offered for registration, as it is written down. -/
inductive Offer where
  | cls (id : String)
  | value (value : LibraryValue)

/-- What a registry of engines is asked. -/
inductive EnginesStep where
  | register (name : String) (offer : Offer) (extensions : List String)
  /-- Register and answer the class. -/
  | add (name : String) (offer : Offer) (extensions : List String)
  | unregister (name : String)
  | get (name : String)
  | has (name : String)
  | resolve (name : String)
  | names
  | extensions
  | forFile (file : Option File)
  | create (name : String) (file : Option (Traced File)) (data : PayloadValue)
    (libraries loader : Option String)
  | render (name : String) (file : Option (Traced File)) (data : PayloadValue) (context : Json)
    (bindings : Option Bindings)

/-- What a store of libraries is asked. -/
inductive LibrariesStep where
  /-- The library under a name, or else a given one. -/
  | get (name : String) (default : LibraryValue)
  | has (name : String)
  | set (name : String) (library : LibraryValue)
  /-- Set, with the library looked up before the store. -/
  | assign (name : String) (library : LibraryValue)
  | names
  | size
  | isNonempty
  | clear
  | inspect
  | ensure (name : String) (factory : Factory)

/-- What a loader is asked. -/
inductive LoaderStep where
  | require (name : String) (file : Option File)
  | tryRequire (name : String) (file : Option File)
  | loadLibrary (name : String) (file : Option File) (libraries : String)

/-- What a result is asked. -/
inductive ResultStep where
  | unwrap
  | read
  | equals (other : String)
  | assign (field : String)

/-- What a template is asked. -/
inductive TemplateStep where
  | file
  /-- Assign another file. -/
  | assignFile
  | data
  | setData (data : PayloadValue)
  | evaluate (context : Json) (bindings : Option Bindings)
  | require (name : String)
  | tryRequire (name : String)
  | loadLibrary (name : String)
  | inspect
  | mime
  | librariesAre (libraries : String)
  | isEvaluator

/-- What a class is asked. -/
inductive ClassStep where
  | mime
  | librariesAre (libraries : String)

/-- A step of a session. -/
inductive Step where
  | modules (step : ModuleStep)
  | newEngines
  | engines (on : String) (step : EnginesStep)
  | newLibraries (title : String)
  | libraries (on : String) (step : LibrariesStep)
  | newLoader (config : Option Json)
  | loader (on : String) (step : LoaderStep)
  /-- Make a result; where its fault cannot be made, neither can the result. -/
  | newResult (value : LibraryValue) (fault : Except Fault (Option Fault))
  | result (on : String) (step : ResultStep)
  | newTemplate (cls : String) (file : Option (Traced File)) (data : PayloadValue)
    (libraries loader : Option String)
  | template (on : String) (step : TemplateStep)
  | cls (id : String) (step : ClassStep)
  | same (first second : String)

/-- A step and the handle for what it answers. -/
structure Request where
  step : Step
  handle : Option String

end AssetPipeline
