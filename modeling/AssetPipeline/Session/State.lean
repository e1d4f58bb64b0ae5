/-
AssetPipeline/Session/State.lean

The state of a session, and programs that run in it.

A session has installed modules and a module cache, stores of libraries, registries
of engines, the payloads of templates, classes and objects by name, a clock and a
log.  A program of the session either gives a value or stops; what it did to the
state before it stopped stays done (`run_bind`).
-/
import AssetPipeline.Object
import AssetPipeline.Engine.Registry

namespace AssetPipeline

/-- The state of a session. -/
structure Session where
  installed : Installed
  cache : ModuleCache
  /-- The content of each store of libraries. -/
  libraries : Dict Nat (Dict String Object)
  /-- The content of each registry of engines. -/
  engines : Dict Nat Engines
  /-- The payload of each template. -/
  payloads : Dict Nat Payload
  classes : Dict String EngineClass
  /-- The objects that have been given a name. -/
  handles : Dict String Object
  clock : Clock
  /-- What has been written down, in order. -/
  log : List Event
  /-- The number of the next new object. -/
  next : Nat

/-- Why a program stops without a value. -/
inductive Halt where
  | fault (fault : Fault)
  /-- Renders are nested deeper than allowed. -/
  | tooDeep
  deriving DecidableEq

namespace Halt

/-- The report of a stop. -/
def reportFields : Halt → List (String × Json)
  | .fault f => f.reportFields
  | .tooDeep =>
    [("error", .str "RecursionError"), ("message", .str "maximum recursion depth exceeded")]

end Halt

namespace Session

/-- A program of the session. -/
abbrev Run (α : Type) := ExceptT Halt (StateM Session) α

/-! ### Stopping -/

variable {α β : Type}

/-- Stop with a fault. -/
def raise (fault : Fault) : Run α := throw (.fault fault)

/-- The value, or stop with the fault. -/
def ofExcept : Except Fault α → Run α
  | .ok a => pure a
  | .error fault => raise fault

/-- Run a program and go on, whether it stops or not. -/
def observe (p : Run α) : Run (Except Halt α) := ExceptT.lift p.run

theorem run_bind (p : Run α) (f : α → Run β) (s : Session) :
    (p >>= f).run s =
      match p.run s with
      | (.ok a, after) => (f a).run after
      | (.error halt, after) => (.error halt, after) := by
  show (ExceptT.bindCont f (p.run s).1) (p.run s).2 = _
  rcases p.run s with ⟨_ | _, after⟩ <;> rfl

@[simp] theorem run_pure (a : α) (s : Session) : (pure a : Run α).run s = (.ok a, s) := rfl

@[simp] theorem run_raise (fault : Fault) (s : Session) :
    (raise fault : Run α).run s = (.error (.fault fault), s) := rfl

@[simp] theorem run_observe (p : Run α) (s : Session) :
    (observe p).run s = (.ok (p.run s).1, (p.run s).2) := rfl

/-! ### The log, the clock, and new objects -/

/-- Write an event down. -/
def record (e : Event) : Run Unit := modify fun s => { s with log := s.log ++ [e] }

/-- Take a reading of the clock. -/
def readClock : Run Float := do
  let s ← get
  set { s with clock := s.clock.advance }
  return s.clock.current

/-- A number that no object has yet. -/
def freshId : Run Nat := do
  let s ← get
  set { s with next := s.next + 1 }
  return s.next

@[simp] theorem run_record (e : Event) (s : Session) :
    (record e).run s = (.ok (), { s with log := s.log ++ [e] }) := rfl

@[simp] theorem run_readClock (s : Session) :
    readClock.run s = (.ok s.clock.current, { s with clock := s.clock.advance }) := rfl

@[simp] theorem run_freshId (s : Session) :
    freshId.run s = (.ok s.next, { s with next := s.next + 1 }) := rfl

/-! ### Modules -/

/-- Import a dependency by a loader, without writing anything down. -/
def acquire (l : Loader) (name : String) (file : Option File) : Run (Except Fault Module) := do
  let s ← get
  let (outcome, cache) := l.acquire s.installed name file s.cache
  set { s with cache := cache }
  return outcome

/-- Require a dependency by a loader. -/
def require (l : Loader) (name : String) (file : Option File) : Run Module := do
  let outcome ← acquire l name file
  (Loader.requireEvents name file outcome).forM record
  ofExcept outcome

/-- Try to get a dependency by a loader: a missing one is a result, every other fault stays. -/
def tryRequire (l : Loader) (name : String) (file : Option File) : Run (LoadResult Module) := do
  let outcome ← acquire l name file
  (Loader.tryEvents outcome).forM record
  ofExcept (Loader.tried outcome)

/-! ### Handles -/

/-- The object of this name. -/
def handle (name : String) : Run Object := do
  match (← get).handles.get? name with
  | some o => return o
  | none => raise (.absentKey name)

/-- Give an object a name. -/
def bindHandle (name : String) (o : Object) : Run Unit :=
  modify fun s => { s with handles := s.handles.put name o }

/-- The class of this name. -/
def classOf (name : String) : Run EngineClass := do
  match (← get).classes.get? name with
  | some c => return c
  | none => raise (.absentKey name)

/-- The registry of engines of this name. -/
def enginesAt (name : String) : Run Nat := do
  match ← handle name with
  | .engines id => return id
  | _ => raise (.wrongObject name "registry of engines")

/-- The store of libraries of this name. -/
def librariesAt (name : String) : Run LibrariesRef := do
  match ← handle name with
  | .libraries ref => return ref
  | _ => raise (.wrongObject name "store of libraries")

/-- The loader of this name. -/
def loaderAt (name : String) : Run Loader := do
  match ← handle name with
  | .loader _ l => return l
  | _ => raise (.wrongObject name "loader")

/-- The template of this name. -/
def templateAt (name : String) : Run Template := do
  match ← handle name with
  | .template t => return t
  | _ => raise (.wrongObject name "template")

end Session

end AssetPipeline
