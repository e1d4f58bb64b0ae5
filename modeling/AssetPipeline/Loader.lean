/-
AssetPipeline/Loader.lean

Loading the dependencies of engines.

A loader imports a dependency for a file.  When that ends because the dependency
itself, or a package around it, is missing, the loader says which dependency is
missing for which file and what to install; every other fault that an import ends
with is passed on as it is.
-/
import AssetPipeline.Event
import AssetPipeline.Module.Import

namespace AssetPipeline

/-! ### Results -/

/-- The outcome of an attempt to get something: a value or a fault. -/
structure LoadResult (α : Type) where
  value : Option α
  fault : Option Fault

namespace LoadResult

variable {α : Type}

/-- The result that holds a value. -/
def success (a : α) : LoadResult α := ⟨some a, none⟩

/-- The result that holds a fault. -/
def failure (fault : Fault) : LoadResult α := ⟨none, some fault⟩

/-- Whether there is no fault. -/
def ok (r : LoadResult α) : Bool := r.fault.isNone

/-- The value, or else the fault that stands in its place. -/
def unwrap (r : LoadResult α) : Except Fault α :=
  match r.fault, r.value with
  | some fault, _ => .error fault
  | none, some a => .ok a
  | none, none => .error .emptyResult

end LoadResult

/-! ### Loaders -/

/-- A loader of dependencies. -/
structure Loader where
  config : Config
  deriving DecidableEq

namespace Loader

/-- The name that is imported for a dependency, unless the dependency has to be refused. -/
def checkName (l : Loader) (name : String) (file : Option File) : Except Fault Unit :=
  if name = "" then .error (.emptyDependency file)
  else if ModuleName.isRelative name && l.config.anchor.isNone then
    .error (.unanchoredDependency name file)
  else .ok ()

/-- Whether a missing module means that the dependency `absolute` is missing. -/
def concerns (absolute : String) (why : ModuleMissing) : Bool :=
  match why.name? with
  | some missing => ModuleName.encloses missing absolute
  | none => false

/-- What a loader says about a dependency whose import ended with a missing module. -/
def blame (l : Loader) (name : String) (file : Option File) (why : ModuleMissing) : Fault :=
  match resolveName l.config.anchor name with
  | .error fault => fault
  | .ok absolute =>
    if concerns absolute why then
      .dependencyMissing
        { dependency := name
          file := file.map File.location
          hint := l.config.hintFor name
          cause := some why }
    else .moduleMissing why

/-- Import a dependency for a file. -/
def acquire (l : Loader) (installed : Installed) (name : String) (file : Option File)
    (c : ModuleCache) : Imported Module :=
  match l.checkName name file with
  | .error fault => (.error fault, c)
  | .ok () =>
    match importFrom installed l.config.anchor name c with
    | (.error (.moduleMissing why), c) => (.error (l.blame name file why), c)
    | other => other

/-! ### Requiring and trying -/

/-- What is written down when a dependency was required. -/
def requireEvents (name : String) (file : Option File) : Except Fault Module → List Event
  | .ok _ => [.dependencyLoaded name file]
  | .error (.dependencyMissing what) => [.dependencyMissing .warning what]
  | .error _ => []

/-- What is written down when a dependency was tried. -/
def tryEvents : Except Fault Module → List Event
  | .error (.dependencyMissing what) => [.dependencyMissing .debug what]
  | _ => []

/-- A missing dependency as a result; every other fault stays one. -/
def tried : Except Fault Module → Except Fault (LoadResult Module)
  | .ok m => .ok (.success m)
  | .error (.dependencyMissing what) => .ok (.failure (.dependencyMissing what))
  | .error fault => .error fault

end Loader

end AssetPipeline
