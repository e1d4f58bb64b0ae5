/-
AssetPipeline/Session/Conduct.lean

Sessions from start to end.

A session starts with installed modules and declared classes.  Its steps are done one
after the other, each answered with what it gave and what was written down meanwhile;
a step that fails does not end the session.
-/
import AssetPipeline.Session.Perform

namespace AssetPipeline

/-- The declaration of a class. -/
structure ClassDecl where
  /-- The name by which steps refer to the class. -/
  id : String
  name : String
  /-- What the class is derived from: a root by its name, any other class by its `id`. -/
  base : String
  mime : Option (Traced Json)
  /-- The handle of a new store that the class brings. -/
  libraries : Option String
  body : Option (List Action)

/-- The answer to a step. -/
structure Answer where
  outcome : Except Halt Json
  log : List Event

namespace Answer

/-- The answer as plain data. -/
def toJson (a : Answer) : Json :=
  let log := ("log", Json.array (a.log.map Event.toJson))
  match a.outcome with
  | .ok value => .object [("ok", value), log]
  | .error halt => .object (halt.reportFields ++ [log])

end Answer

namespace Session

/-! ### The start -/

/-- A session in which nothing has happened. -/
def initial (installed : Installed) (clock : Clock) : Session where
  installed := installed
  cache := .empty
  libraries := Dict.ofList [(LibrariesRef.shared.id, Dict.empty)]
  engines := Dict.empty
  payloads := Dict.empty
  classes := Dict.ofList
    [(EngineClass.root.name, .root), (EngineClass.template.name, .template)]
  handles := Dict.ofList
    [("default_libs", .libraries .shared), ("default_loader", .loader 0 ⟨.default⟩)]
  clock := clock
  log := []
  next := 1

/-- A new store under a handle, if there is one. -/
def declareLibraries : Option String → Run (Option LibrariesRef)
  | none => return none
  | some name => do
    let ref ← newStore LibrariesRef.defaultTitle
    bindHandle name (.libraries ref)
    return some ref

/-- What a class is derived from.  The names of the two roots always mean the roots. -/
def baseNamed (name : String) : Run EngineClass :=
  if name = EngineClass.root.name then return .root
  else if name = EngineClass.template.name then return .template
  else classOf name

/-- Declare a class. -/
def declareClass (d : ClassDecl) : Run Unit := do
  let base ← baseNamed d.base
  let libraries ← declareLibraries d.libraries
  let own : Traits :=
    { tag := ← freshId, name := d.name, mime := d.mime, libraries := libraries, body := d.body }
  modify fun s => { s with classes := s.classes.put d.id (.derived own base) }

/-- Declare classes in order; what cannot be declared is left out. -/
def declareAll : List ClassDecl → Session → Session
  | [], s => s
  | d :: rest, s => declareAll rest ((declareClass d).run s).2

/-! ### The steps -/

/-- Give an object a handle, if there is one. -/
def bindOptional (o : Object) : Option String → Run Unit
  | some name => bindHandle name o
  | none => return ()

/-- Do a step, give its object a handle, and show it. -/
def serve (r : Request) : Run Json := do
  let o ← performStep r.step
  bindOptional o r.handle
  return o.toJson

/-- Do a step; its answer has what was written down meanwhile. -/
def answer (r : Request) (s : Session) : Answer × Session :=
  let (outcome, after) := (serve r).run { s with log := [] }
  (⟨outcome, after.log⟩, after)

/-- Do steps in order. -/
def answerAll : List Request → Session → List Answer
  | [], _ => []
  | r :: rest, s =>
    let (a, s) := answer r s
    a :: answerAll rest s

/-- A whole session. -/
def conduct (installed : Installed) (classes : List ClassDecl) (clock : Clock)
    (requests : List Request) : List Answer :=
  answerAll requests (declareAll classes (initial installed clock))

end Session

end AssetPipeline
