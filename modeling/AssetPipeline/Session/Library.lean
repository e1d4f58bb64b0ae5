/-
AssetPipeline/Session/Library.lean

Stores of libraries: each keeps library objects by name, in the order of first write.

Reading never fails: an absent name reads as nothing.  The last write to a name
wins.  A name can be filled once from a factory, which may itself use the store.
-/
import AssetPipeline.Session.State

namespace AssetPipeline

/-- How to make a library: first it may clear the store, then it writes libraries, fills names from
other factories, may fail, and otherwise gives its value. -/
inductive Factory where
  | make (clear : Bool) (writes : List (String × LibraryValue))
    (fills : List (String × Factory)) (failure : Option Fault) (value : LibraryValue)

namespace Session

/-- The object that a written library stands for. -/
def evalLibrary : LibraryValue → Run Object
  | .plain data => return .plain data
  | .token name => return .token name
  | .handle name => handle name

/-! ### One store -/

/-- The content of a store. -/
def contents (s : Session) (ref : LibrariesRef) : Dict String Object :=
  s.libraries.getD ref.id Dict.empty

/-- The content of a store, read by a program. -/
def readStore (ref : LibrariesRef) : Run (Dict String Object) := return (← get).contents ref

/-- Replace the content of a store. -/
def writeStore (ref : LibrariesRef) (content : Dict String Object) : Run Unit :=
  modify fun s => { s with libraries := s.libraries.put ref.id content }

/-- A new store without libraries. -/
def newStore (title : String) : Run LibrariesRef := do
  let ref := ⟨← freshId, title⟩
  writeStore ref Dict.empty
  return ref

/-- What is written down when `library` is stored under `name`. -/
def storeEvent (content : Dict String Object) (name : String) (library : Object) : Event :=
  match content.get? name with
  | some old => if old.same library then .libraryRegistered name else .libraryReplaced name
  | none => .libraryRegistered name

/-- The library under a name, or nothing. -/
def getLibrary (ref : LibrariesRef) (name : String) : Run Object :=
  return Object.ofOption ((← readStore ref).get? name)

/-- A store of libraries as it is shown: its kind and the sorted names. -/
def inspectStore (s : Session) (ref : LibrariesRef) : String :=
  ref.title ++ "(" ++ (Json.strings (sortTexts (s.contents ref).keys)).inspect ++ ")"

/-- Store a library under a name. -/
def setLibrary (ref : LibrariesRef) (name : String) (library : Object) : Run Unit := do
  let content ← readStore ref
  record (storeEvent content name library)
  writeStore ref (content.put name library)

/-- The library under a name; an absent one is made and stored first. -/
def ensureLibrary (ref : LibrariesRef) (name : String) (make : Run Object) : Run Object := do
  if !(← readStore ref).contains name then
    setLibrary ref name (← make)
  getLibrary ref name

/-- Write several libraries in order. -/
def setLibraries (ref : LibrariesRef) : List (String × LibraryValue) → Run Unit
  | [] => return ()
  | (name, value) :: rest => do
    setLibrary ref name (← evalLibrary value)
    setLibraries ref rest

/-- Clear the store if asked to. -/
def clearIf (ref : LibrariesRef) (clear : Bool) : Run Unit :=
  if clear then writeStore ref Dict.empty else return ()

/-- Stop if there is a fault. -/
def raiseIf : Option Fault → Run Unit
  | some fault => raise fault
  | none => return ()

/-! ### Factories and loaders -/

mutual
/-- Make a library by a factory for a store. -/
def runFactory (ref : LibrariesRef) : Factory → Run Object
  | .make clear writes fills failure value => do
    clearIf ref clear
    setLibraries ref writes
    runFills ref fills
    raiseIf failure
    evalLibrary value
/-- Fill names from factories in order. -/
def runFills (ref : LibrariesRef) : List (String × Factory) → Run Unit
  | [] => return ()
  | (name, factory) :: rest => do
    let _ ← ensureLibrary ref name (runFactory ref factory)
    runFills ref rest
end

/-- The library under a name; an absent one is a dependency, required by a loader and stored. -/
def loadLibrary (l : Loader) (name : String) (file : Option File) (ref : LibrariesRef) :
    Run Object :=
  ensureLibrary ref name (Object.module <$> require l name file)

end Session

end AssetPipeline
