/-
AssetPipeline/Proofs/Session/Engines.lean

Who touches the registries of engines of a session.

Only three kinds of steps do: making a registry, registering an engine, and ending a
registration.  All other steps overlook registries, renders included.  So in every session
that requests can bring about, all registries have come about by registrations and their
ends.

Main statements: `run_register` for a registration, `reachably_performStep` for one step and
`reachable_of_reached` for sessions.
-/
import AssetPipeline.Proofs.Engine.Soundness
import AssetPipeline.Proofs.Session.StepFrame

namespace AssetPipeline.Session

variable {s : Session} {id : Nat} {on name : String} {extensions : List String}
  {R : Session → Session → Prop}

/-! ### Registering -/

/-- The session in which a registration has been accepted. -/
def entered (s : Session) (id : Nat) (name : String) (c : EngineClass)
    (extensions : List String) : Session :=
  { s with
    engines := s.engines.put id ((s.registry id).enter name c extensions)
    log := s.log ++ [.engineRegistered c.name name] }

/-- The registries of a session, one of them having been replaced. -/
theorem registry_put {after : Session} (id : Nat) (e : Engines)
    (h : after.engines = s.engines.put id e) (other : Nat) :
    after.registry other = if other = id then e else s.registry other := by
  rw [registry, h, Dict.getD, Dict.get?_put]
  split <;> rfl

theorem registry_entered (c : EngineClass) (other : Nat) :
    (s.entered id name c extensions).registry other =
      if other = id then (s.registry id).enter name c extensions else s.registry other :=
  registry_put id _ rfl other

/-- Registering is entering what is accepted. -/
theorem run_register (id : Nat) (name : String) (candidate : Candidate)
    (extensions : List String) (s : Session) :
    (register id name candidate extensions).run s =
      match (s.registry id).accept name candidate with
      | .ok c => (.ok c, s.entered id name c extensions)
      | .error why => (.error (.fault (.engineRefused why)), s) := by
  rw [register, run_bind_ok (run_get s), Engines.register]
  rcases (s.registry id).accept name candidate with why | c <;> rfl

/-- What a registration of a candidate does, whatever it answers for the class: it fails and leaves
everything as it is, or enters the class. -/
theorem run_offered {offer : Offer} {candidate : Candidate}
    (hon : (enginesAt on).run s = (.ok id, s))
    (hoffer : ((evalOffer offer).run s).1 = .ok candidate) (name : String)
    (extensions : List String) (answer : EngineClass → Object) :
    ((do
      let id ← enginesAt on
      let c ← register id name (← evalOffer offer) extensions
      return answer c : Run Object)).run s =
      match (s.registry id).accept name candidate with
      | .ok c => (.ok (answer c), s.entered id name c extensions)
      | .error why => (.error (.fault (.engineRefused why)), s) := by
  have hrun : (evalOffer offer).run s = (.ok candidate, s) :=
    Prod.ext hoffer ((views_evalOffer offer).looks s).symm
  have hregister := run_register id name candidate extensions s
  rw [run_bind_ok hon, run_bind_ok hrun]
  rcases hacc : (s.registry id).accept name candidate with why | c
  · rw [hacc] at hregister
    exact run_bind_error hregister
  · rw [hacc] at hregister
    rw [run_bind_ok hregister]
    rfl

/-! ### Leaving registries alone -/

/-- The registries of engines are as before, as they are after a render. -/
def SameEngines (s after : Session) : Prop := after.engines = s.engines

instance : OverlooksRenders SameEngines where
  refl _ := rfl
  trans _ _ _ h h' := Eq.trans h' h
  overlook _ _ _ _ _ := rfl
  acquired _ _ _ _ := rfl
  written _ _ _ := rfl
  stored _ _ := rfl
  rendered _ _ _ := rfl

/-! ### Registries come about by registrations and their ends -/

/-- Every registry is one that registrations and their ends can bring about. -/
def EnginesReachable (s : Session) : Prop := ∀ id, (s.registry id).Reachable

/-- If all registries could be brought about, it is so still. -/
def Reachably (s after : Session) : Prop := s.EnginesReachable → after.EnginesReachable

instance : OverlooksRenders Reachably where
  refl _ h := h
  trans _ _ _ h h' hs := h' (h hs)
  overlook _ _ _ _ _ h := h
  acquired _ _ _ _ h := h
  written _ _ _ h := h
  stored _ _ h := h
  rendered _ _ _ h := h

/-- A registry may be replaced by one that can be brought about. -/
theorem reachably_put {after : Session} (id : Nat) (e : Engines)
    (h : after.engines = s.engines.put id e) (he : s.EnginesReachable → e.Reachable) :
    Reachably s after := by
  intro hreach other
  rw [registry_put id e h]
  split
  · exact he hreach
  · exact hreach other

theorem reachably_register (id : Nat) (name : String) (candidate : Candidate)
    (extensions : List String) : Keeps Reachably (register id name candidate extensions) := by
  intro s
  rw [run_register]
  rcases hacc : (s.registry id).accept name candidate with why | c
  · exact refl s
  · exact reachably_put id _ rfl fun hreach => (hreach id).entered extensions hacc

theorem reachably_performEngines (on : String) (step : EnginesStep) :
    Keeps Reachably (performEngines on step) := by
  have hend : ∀ id name s, Reachably s
      { s with engines := s.engines.put id ((s.registry id).unregister name) } := by
    intro id name s
    exact reachably_put id _ rfl fun hreach => (hreach id).unregistered name
  cases step with
  | render name file data context bindings =>
    refine (views_enginesAt on).keeps.bind fun id => ?_
    refine (keeps_evalPayload data).bind fun data => ?_
    exact (OverlooksRenders.keeps_render _ _ _ _ _ _ _).bind fun _ => .pure _
  | _ => exact keeps_performEngines on rfl reachably_register hend

/-- **What a step does to registries are registrations and their ends.** -/
theorem reachably_performStep (step : Step) : Keeps Reachably (performStep step) := by
  cases step with
  | newEngines =>
    refine keeps_freshId.bind fun id => ?_
    intro s
    -- a registry starts without engines
    exact reachably_put id .empty rfl fun _ => .empty
  | engines on step => exact reachably_performEngines on step
  | modules step => exact keeps_performModules (fun _ _ _ h => h) step
  | newLibraries title => exact (keeps_newStore title).bind fun _ => .pure _
  | libraries on step => exact OverlooksStores.keeps_performLibraries on step
  | newLoader config => exact keeps_newLoader config
  | loader on step => exact OverlooksStores.keeps_performLoader on step
  | newResult value fault => exact keeps_madeResult value fault
  | result on step => exact (views_performResult on step).keeps
  | newTemplate cls file data libraries loader =>
    exact keeps_madeTemplate cls file data libraries loader
  | template on step => exact OverlooksRenders.keeps_performTemplate on step
  | cls id step => exact (views_performClass id step).keeps
  | same first second => exact (views_compared first second).keeps

/-! ### Sessions -/

/-- A session that requests can bring about. -/
inductive Reached : Session → Prop
  | start (installed : Installed) (classes : List ClassDecl) (clock : Clock) :
    Reached (declareAll classes (initial installed clock))
  | answered {s : Session} (r : Request) : Reached s → Reached (answer r s).2

/-- The session in which steps have been answered. -/
def afterAll (requests : List Request) (s : Session) : Session :=
  requests.foldl (fun s r => (answer r s).2) s

theorem reachable_declareAll {classes : List ClassDecl} (h : s.EnginesReachable) :
    (declareAll classes s).EnginesReachable := by
  induction classes generalizing s with
  | nil => exact h
  | cons d rest ih =>
    exact ih (keeps_declareClass (R := Reachably) keeps_newStore d s h)

theorem reachably_serve (r : Request) : Keeps Reachably (serve r) := by
  refine (reachably_performStep r.step).bind fun o => ?_
  refine Keeps.bind ?_ fun _ => .pure _
  cases r.handle with
  | none => exact .pure ()
  | some name => exact keeps_bindHandle name o

/-- **In every session that requests can bring about, registrations and their ends have brought
about the registries.** -/
theorem reachable_of_reached (h : Reached s) : s.EnginesReachable := by
  induction h with
  | start installed classes clock => exact reachable_declareAll fun _ => .empty
  | @answered s r _ ih =>
    -- an answer starts with an empty log, which no registry depends on
    have hcleared : EnginesReachable { s with log := [] } := ih
    exact reachably_serve r _ hcleared

/-- Only engines are registered. -/
def EnginesSound (s : Session) : Prop :=
  ∀ engines engine c, (s.registry engines).get? engine = some c → c.isEngine = true

/-- What holds of all registered classes and of one that is entered holds of all that are registered
then. -/
theorem registered_entered {P : EngineClass → Prop} {c : EngineClass}
    (h : ∀ engines engine c, (s.registry engines).get? engine = some c → P c) (hc : P c) :
    ∀ engines engine c',
      ((s.entered id name c extensions).registry engines).get? engine = some c' → P c' := by
  intro engines engine c' hc'
  rw [registry_entered] at hc'
  split at hc'
  · rw [Engines.get?_enter] at hc'
    split at hc'
    · cases hc'
      exact hc
    · exact h id engine c' hc'
  · exact h engines engine c' hc'

/-- An engine may be entered. -/
theorem sound_entered {c : EngineClass} (h : s.EnginesSound) (hc : c.isEngine = true) :
    (s.entered id name c extensions).EnginesSound := registered_entered h hc

/-- In every session that requests can bring about, only engines are registered. -/
theorem sound_of_reached (h : Reached s) : s.EnginesSound := by
  intro engines engine c hc
  exact (Engines.sound_of_reachable (reachable_of_reached h engines)).engine hc

end AssetPipeline.Session
