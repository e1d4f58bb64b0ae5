/-
AssetPipeline/Module/Import.lean

Importing modules.

Some modules are installed: each may contain others or not, imports some modules
when its body is run, and may fail after that.  The cache holds the modules whose
bodies have been started and not failed, and names that are barred.  A name in
the cache is answered from there, also while its body is still running, so that
modules may import each other.  For any other name the parent comes first; then
the module is put into the cache, its body is run, and it is taken out again if
the body fails.

While a body runs, its own module is in the cache and is never looked up among the
installed ones.  So the body is run against the installed modules without its own,
and an import ends because their number falls with every body.

Main statement: `importName_eq` gives an import without the bound on its recursion.
-/
import AssetPipeline.Dict
import AssetPipeline.Fault
import AssetPipeline.Module.Name

namespace AssetPipeline

/-! ### Modules -/

/-- An installed module. -/
structure ModuleBody where
  /-- Whether other modules may lie inside this one. -/
  package : Bool
  /-- The modules that the body imports, in order. -/
  imports : List String
  /-- What the body raises after its imports. -/
  failure : Option Fault
  deriving DecidableEq

/-- The installed modules by name. -/
abbrev Installed := Dict String ModuleBody

/-- A module that was loaded: its name, and the number of the run of its body. -/
structure Module where
  name : String
  run : Nat
  deriving DecidableEq

namespace Module

/-- The module as plain data. -/
def toJson (m : Module) : Json :=
  .object [("module", .str (m.name ++ "#" ++ toString m.run))]

end Module

/-- What the cache says about a name. -/
inductive CacheEntry where
  /-- The name is barred. -/
  | blocked
  /-- The module of the `run`-th run of the body. -/
  | loaded (run : Nat) (package : Bool)
  deriving DecidableEq

namespace CacheEntry

/-- The answer to an import of a cached name. -/
def answer (name : String) : CacheEntry → Except Fault Module
  | .blocked => .error (.moduleMissing (.blocked name))
  | .loaded run _ => .ok ⟨name, run⟩

/-- Whether the entry is a module. -/
def isModule : CacheEntry → Bool
  | .blocked => false
  | .loaded .. => true

/-- Whether the entry is a module that may contain others. -/
def isPackage : CacheEntry → Bool
  | .blocked => false
  | .loaded _ package => package

end CacheEntry

/-- The modules that are loaded, and how often each body was started. -/
structure ModuleCache where
  entries : Dict String CacheEntry
  runs : Dict String Nat
  deriving DecidableEq

namespace ModuleCache

/-- Nothing is loaded. -/
def empty : ModuleCache := ⟨Dict.empty, Dict.empty⟩

/-- The number of the next run of a body. -/
def nextRun (c : ModuleCache) (name : String) : Nat := c.runs.getD name 0 + 1

/-- The module of this name enters the cache, and its body starts. -/
def start (c : ModuleCache) (name : String) (package : Bool) : ModuleCache where
  entries := c.entries.put name (.loaded (c.nextRun name) package)
  runs := c.runs.put name (c.nextRun name)

/-- The name leaves the cache. -/
def drop (c : ModuleCache) (name : String) : ModuleCache :=
  { c with entries := c.entries.erase name }

/-- Whether a module is loaded. -/
def hasModule (c : ModuleCache) (name : String) : Bool :=
  ((c.entries.get? name).map CacheEntry.isModule).getD false

/-- Whether a module is loaded that may contain others. -/
def hasPackage (c : ModuleCache) (name : String) : Bool :=
  ((c.entries.get? name).map CacheEntry.isPackage).getD false

/-- The name is barred. -/
def block (c : ModuleCache) (name : String) : ModuleCache :=
  { c with entries := c.entries.put name .blocked }

end ModuleCache

/-- The outcome of an import, and the cache after it. -/
abbrev Imported (α : Type) := Except Fault α × ModuleCache

/-! ### Names that are asked for -/

/-- The name that a request stands for, given an anchor package. -/
def absoluteName (anchor : Option String) (name : String) : Except Fault String :=
  if ModuleName.isRelative name then
    match anchor with
    | none | some "" => .error (.relativeImport name)
    | some package =>
      match ModuleName.resolve? package name with
      | some absolute => .ok absolute
      | none => .error .beyondAnchor
  else if name = "" then .error .emptyModuleName
  else .ok name

/-- The name that a request stands for, told without an import. -/
def resolveName (anchor : Option String) (name : String) : Except Fault String :=
  if ModuleName.isRelative name then
    match anchor with
    | none | some "" =>
      .error (.importFailed ("no package specified for " ++ Text.quoted name ++
        " (required for relative module names)") none)
    | some package =>
      match ModuleName.resolve? package name with
      | some absolute => .ok absolute
      | none => .error .beyondAnchor
  else .ok name

/-- The name that an import looks up is told the same without it. -/
theorem resolveName_of_absolute {anchor : Option String} {name absolute : String}
    (h : absoluteName anchor name = .ok absolute) : resolveName anchor name = .ok absolute := by
  unfold absoluteName at h
  unfold resolveName
  split at h
  · next hrel =>
    rw [if_pos hrel]
    split at h
    · cases h
    · cases h
    · exact h
  · next hrel =>
    rw [if_neg hrel]
    split at h
    · cases h
    · exact h

/-! ### Importing -/

/-- A way of loading a module that is not in the cache. -/
abbrev Load := String → ModuleCache → Imported Module

/-- Load a module whose parent has been dealt with: the parent has to be a loaded package. -/
def loadInside (load : Load) (parent : String) : Load := fun name c =>
  if c.hasPackage parent then load name c
  else (.error (.moduleMissing (.notPackage name parent)), c)

/-- Answer a name from the cache, or load it after the packages around it, which are given
innermost first. -/
def importWithin (load : Load) : (around : List String) → Load
  | [], name, c =>
    match c.entries.get? name with
    | some entry => (entry.answer name, c)
    | none => load name c
  | parent :: around, name, c =>
    match c.entries.get? name with
    | some entry => (entry.answer name, c)
    | none =>
      match c.entries.get? parent with
      | some _ => loadInside load parent name c
      | none =>
        match importWithin load around parent c with
        | (.error fault, c) => (.error fault, c)
        | (.ok _, c) =>
          match c.entries.get? name with
          | some entry => (entry.answer name, c)
          | none => loadInside load parent name c

/-- Run the imports of a body in order.  A body has no anchor for relative names. -/
def runImports (load : Load) : List String → ModuleCache → Imported Unit
  | [], c => (.ok (), c)
  | name :: rest, c =>
    match absoluteName none name with
    | .error fault => (.error fault, c)
    | .ok absolute =>
      match load absolute c with
      | (.error fault, c) => (.error fault, c)
      | (.ok _, c) => runImports load rest c

/-- Put a module into the cache, run its body, and take it out again if the body fails. -/
def loadBody (load : Load) (body : ModuleBody) : Load := fun name c =>
  match runImports load body.imports (c.start name body.package) with
  | (.error fault, after) => (.error fault, after.drop name)
  | (.ok (), after) =>
    match body.failure with
    | some fault => (.error fault, after.drop name)
    | none => (.ok ⟨name, c.nextRun name⟩, after)

/-- Import an absolute name. -/
def importName (installed : Installed) (name : String) (c : ModuleCache) : Imported Module :=
  let load : Load := fun name c =>
    match _h : installed.get? name with
    | none => (.error (.moduleMissing (.undeclared name)), c)
    | some body => loadBody (importName (installed.erase name)) body name c
  importWithin load (ModuleName.ancestors name) name c
termination_by installed.size
decreasing_by exact Dict.size_erase_lt _h

/-- Load an installed module that is not in the cache. -/
def loadModule (installed : Installed) : Load := fun name c =>
  match installed.get? name with
  | none => (.error (.moduleMissing (.undeclared name)), c)
  | some body => loadBody (importName (installed.erase name)) body name c

/-- An import answers from the cache, or loads the module after the packages around it. -/
theorem importName_eq (installed : Installed) (name : String) :
    importName installed name =
      importWithin (loadModule installed) (ModuleName.ancestors name) name := by
  funext c
  rw [importName]
  congr 1
  funext name c
  unfold loadModule
  split <;> simp_all

/-- Import a name, which may be relative to the anchor. -/
def importFrom (installed : Installed) (anchor : Option String) (name : String)
    (c : ModuleCache) : Imported Module :=
  match absoluteName anchor name with
  | .ok absolute => importName installed absolute c
  | .error fault => (.error fault, c)

end AssetPipeline
