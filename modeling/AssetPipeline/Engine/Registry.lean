/-
AssetPipeline/Engine/Registry.lean

Engines by name and by file extension.

A registry holds one class per name, and for every extension the names that claim
it, the latest last.  The latest claimant handles the extension; when it is
unregistered, the one before it does again.
-/
import AssetPipeline.Dict
import AssetPipeline.Engine.Class
import AssetPipeline.Extension

namespace AssetPipeline

/-- What is offered for registration: a class, or something else, as it is shown. -/
inductive Candidate where
  | cls (cls : EngineClass)
  | other (shown : String)
  deriving DecidableEq

/-- Registered engines. -/
structure Engines where
  classes : Dict String EngineClass
  /-- The names that claim an extension, the latest last. -/
  claims : Dict String (List String)
  deriving DecidableEq

namespace Engines

/-- The registry without engines. -/
def empty : Engines := ⟨Dict.empty, Dict.empty⟩

instance : Inhabited Engines := ⟨empty⟩

/-! ### Registration -/

/-- The claims on an extension after `name` has claimed it anew. -/
def reclaim (name : String) (names : List String) : List String := names.erase name ++ [name]

/-- Let `name` claim one extension. -/
def claim (name : String) (claims : Dict String (List String)) (ext : String) :
    Dict String (List String) :=
  let key := Extension.normalize ext
  claims.put key (reclaim name (claims.getD key []))

/-- The class that may be registered under `name`, or why it may not. -/
def accept (e : Engines) (name : String) : Candidate → Except EngineRefusal EngineClass
  | .other shown => .error (.notAnEngine name shown)
  | .cls c =>
    if c.isEngine then
      match e.classes.get? name with
      | some existing =>
        if existing.same c then .ok c else .error (.nameTaken name existing.name c.name)
      | none => .ok c
    else .error (.notAnEngine name c.inspect)

/-- The registry with `c` under `name`, claiming the extensions in order. -/
def enter (e : Engines) (name : String) (c : EngineClass) (extensions : List String) : Engines where
  classes := e.classes.put name c
  claims := extensions.foldl (claim name) e.claims

/-- Register a candidate under a name for some extensions. -/
def register (e : Engines) (name : String) (candidate : Candidate) (extensions : List String) :
    Except EngineRefusal (EngineClass × Engines) :=
  (e.accept name candidate).map fun c => (c, e.enter name c extensions)

/-- The claims on an extension after `name` has given it up; none if nobody is left. -/
def withdraw (name : String) (names : List String) : Option (List String) :=
  match names.erase name with
  | [] => none
  | rest => some rest

/-- Remove an engine and all its claims. -/
def unregister (e : Engines) (name : String) : Engines where
  classes := e.classes.erase name
  claims := e.claims.filterMap fun _ names => withdraw name names

/-! ### Look-up -/

/-- The class under a name. -/
def get? (e : Engines) (name : String) : Option EngineClass := e.classes.get? name

/-- Whether an engine has this name. -/
def has (e : Engines) (name : String) : Bool := e.classes.contains name

/-- The names of the engines, sorted. -/
def names (e : Engines) : List String := sortTexts e.classes.keys

/-- The engine that handles each extension, in the order of the first claims. -/
def extensions (e : Engines) : Dict String String :=
  e.claims.filterMap fun _ names => names.getLast?

/-- The class under a name, or a fault that names the known ones. -/
def resolve (e : Engines) (name : String) : Except Fault EngineClass :=
  match e.get? name with
  | some c => .ok c
  | none => .error (.engineUnknown name e.classes.keys)

/-- The suffix by which the engine for a location is chosen. -/
def suffixKey (location : String) : String := Text.lowerCase (Path.parse location).suffix

/-- The class for a location, chosen by its suffix. -/
def forLocation (e : Engines) (location : String) : Except Fault EngineClass :=
  let key := suffixKey location
  match (e.claims.get? key).bind List.getLast? with
  | some name => e.resolve name
  | none => .error (.engineUnknown (if key = "" then location else key) e.claims.keys)

end Engines

end AssetPipeline
