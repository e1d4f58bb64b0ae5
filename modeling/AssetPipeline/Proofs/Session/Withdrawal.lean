/-
AssetPipeline/Proofs/Session/Withdrawal.lean

An engine that is registered and unregistered leaves no trace.

Two sessions are run side by side, one of which has an engine more (`Apart`): its registry,
without that engine, is alike to the registry of the other.  Whatever other engines are
registered and unregistered in both, each of these steps ends in the same way, and the
sessions stay like that.  So once the engine has been unregistered, the registry is the one
that would be there without it, up to the order of entries.

Main statements: `Apart.performAll` for rows of steps on both sessions, and
`unregistered_leaves_no_trace` for the whole life of an engine.
-/
import AssetPipeline.Proofs.Engine.Withdrawal
import AssetPipeline.Proofs.Session.Registration
import AssetPipeline.Proofs.Session.TwoRuns

namespace AssetPipeline

open Engines

/-- The name that a step registers or unregisters, if it does so. -/
def EnginesStep.subject? : EnginesStep → Option String
  | .register name _ _ | .add name _ _ | .unregister name => some name
  | _ => none

namespace Session

variable {α : Type} {s s' : Session} {id : Nat} {on name other : String}
  {extensions : List String} {steps : List EnginesStep}

/-! ### Two sessions, one with an engine more -/

/-- A registry of the first session has an engine more than that of the second, and apart from the
registries, in which the order of entries may differ, and the log the sessions are the same. -/
structure Apart (on : String) (id : Nat) (name : String) (s s' : Session) : Prop where
  handle : s.handles.get? on = some (.engines id)
  /-- Nobody claims an extension twice. -/
  nodup : ∀ key, ((s.registry id).claimants key).Nodup
  registry : ((s.registry id).unregister name).Alike (s'.registry id)
  rest : ∃ engines log, s' = { s with engines := engines, log := log }

/-- The program ends in the same way in both sessions, and leaves them as they are. -/
abbrev Ignores (on : String) (id : Nat) (name : String) (p : Run α) : Prop :=
  Agree (Apart on id name) Eq Eq p p

theorem Views.ignores {p : Run α} (h : Views p) : Ignores on id name p := by
  intro s s' hs
  obtain ⟨engines, log, rfl⟩ := hs.rest
  have hlooks : s = (p.run s).2 := h.looks s
  rw [h s engines log, ← hlooks]
  refine ⟨?_, hs⟩
  rcases (p.run s).1 with halt | a
  · exact .error rfl
  · exact .ok rfl

theorem Ignores.bind {β : Type} {p : Run α} {f : α → Run β} (hp : Ignores on id name p)
    (hf : ∀ a, Ignores on id name (f a)) : Ignores on id name (p >>= f) := by
  refine Agree.bind hp fun a b hab => ?_
  cases hab
  exact hf a

/-- The handle stands for the registry in question, in both. -/
theorem agree_enginesAt :
    Agree (Apart on id name) Eq (fun a b => id = a ∧ id = b) (enginesAt on) (enginesAt on) := by
  intro s s' hs
  obtain ⟨engines, log, rfl⟩ := hs.rest
  have hsecond : handles { s with engines := engines, log := log } = s.handles := rfl
  rw [run_enginesAt hs.handle, run_enginesAt (hsecond ▸ hs.handle)]
  exact ⟨.ok ⟨rfl, rfl⟩, hs⟩

/-- The registry is replaced in both. -/
theorem Apart.put (h : Apart on id name s s') {e e' : Engines}
    (hnodup : ∀ key, (e.claimants key).Nodup) (he : (e.unregister name).Alike e')
    (log log' : List Event) :
    Apart on id name { s with engines := s.engines.put id e, log := log }
      { s' with engines := s'.engines.put id e', log := log' } := by
  have hfirst : Session.registry { s with engines := s.engines.put id e, log := log } id = e :=
    (registry_put id e rfl id).trans (if_pos rfl)
  have hsecond :
      Session.registry { s' with engines := s'.engines.put id e', log := log' } id = e' :=
    (registry_put id e' rfl id).trans (if_pos rfl)
  refine ⟨h.handle, ?_, ?_, ?_⟩
  · rw [hfirst]
    exact hnodup
  · rw [hfirst, hsecond]
    exact he
  · obtain ⟨engines, _, rfl⟩ := h.rest
    exact ⟨engines.put id e', log', rfl⟩

/-! ### Steps on both sessions -/

/-- Another engine may be registered: it is accepted in both or in neither. -/
theorem ignores_register (hne : other ≠ name) (candidate : Candidate) (extensions : List String) :
    Ignores on id name (register id other candidate extensions) := by
  intro s s' hs
  have haccept : (s'.registry id).accept other candidate =
      (s.registry id).accept other candidate := by
    rw [← hs.registry.accept, accept_unregister_of_ne hne]
  rw [run_register, run_register, haccept]
  rcases (s.registry id).accept other candidate with why | c
  · exact ⟨.error rfl, hs⟩
  · have halike := (alike_unregister_enter hs.nodup hne c extensions).trans
      (hs.registry.enter other c extensions)
    refine ⟨.ok rfl, hs.put ?_ halike _ _⟩
    intro key
    rw [claimants_enter (hs.nodup key)]
    split
    · exact nodup_reclaim (hs.nodup key)
    · exact hs.nodup key

/-- Another engine may be unregistered. -/
theorem ignores_unregister (other : String) :
    Ignores on id name (performEngines on (.unregister other)) := by
  refine Agree.bind agree_enginesAt ?_
  rintro _ _ ⟨rfl, rfl⟩ s s' hs
  have halike := (alike_unregister_unregister (s.registry id) other name).trans
    (hs.registry.unregister other)
  refine ⟨.ok rfl, hs.put ?_ halike _ _⟩
  intro key
  rw [claimants_unregister]
  exact (hs.nodup key).erase other

/-- **A step that is about another engine does the same in both sessions.** -/
theorem ignores_performEngines {step : EnginesStep} (hstep : step.subject? = some other)
    (hne : other ≠ name) : Ignores on id name (performEngines on step) := by
  cases step with
  | register subject offer extensions =>
    cases hstep
    refine Agree.bind agree_enginesAt ?_
    rintro _ _ ⟨rfl, rfl⟩
    refine (views_evalOffer offer).ignores.bind fun candidate => ?_
    exact (ignores_register hne candidate extensions).bind fun c => Agree.pure rfl
  | add subject offer extensions =>
    cases hstep
    refine Agree.bind agree_enginesAt ?_
    rintro _ _ ⟨rfl, rfl⟩
    refine (views_evalOffer offer).ignores.bind fun candidate => ?_
    exact (ignores_register hne candidate extensions).bind fun c => Agree.pure rfl
  | unregister subject =>
    cases hstep
    exact ignores_unregister other
  | _ => cases hstep

/-! ### Rows of steps on both sessions -/

/-- How the steps of a row end, one after the other. -/
def outcomesAll (on : String) : List EnginesStep → Session → List (Except Halt Object)
  | [], _ => []
  | step :: rest, s =>
    ((performEngines on step).run s).1 :: outcomesAll on rest ((performEngines on step).run s).2

theorem performAll_append (on : String) (steps steps' : List EnginesStep) (s : Session) :
    performAll on (steps ++ steps') s = performAll on steps' (performAll on steps s) := by
  induction steps generalizing s with
  | nil => rfl
  | cons step rest ih => exact ih _

/-- **Steps that are about other engines do the same in both sessions.** -/
theorem Apart.performAll (h : Apart on id name s s')
    (hsteps : ∀ step ∈ steps, ∃ other, step.subject? = some other ∧ other ≠ name) :
    outcomesAll on steps s = outcomesAll on steps s' ∧
      Apart on id name (performAll on steps s) (performAll on steps s') := by
  induction steps generalizing s s' with
  | nil => exact ⟨rfl, h⟩
  | cons step rest ih =>
    obtain ⟨other, hsubject, hne⟩ := hsteps step List.mem_cons_self
    obtain ⟨hout, hafter⟩ := ignores_performEngines hsubject hne s s' h
    obtain ⟨houts, hend⟩ := ih hafter fun step' hmem => hsteps step' (List.mem_cons_of_mem _ hmem)
    refine ⟨?_, hend⟩
    rw [outcomesAll, outcomesAll, hout.eq, houts]

/-! ### The life of an engine -/

/-- The session in which a new engine has been registered has that engine more. -/
theorem apart_entered (hon : s.handles.get? on = some (.engines id))
    (hsound : (s.registry id).Sound) (hnew : (s.registry id).has name = false) (c : EngineClass)
    (extensions : List String) :
    Apart on id name (s.entered id name c extensions) s where
  handle := hon
  nodup key := by
    rw [registry_entered, if_pos rfl, claimants_enter (hsound.nodup key)]
    split
    · exact nodup_reclaim (hsound.nodup key)
    · exact hsound.nodup key
  registry := by
    rw [registry_entered, if_pos rfl, hsound.unregister_enter hnew]
    exact Engines.alike_refl _
  rest := ⟨s.engines, s.log, rfl⟩

/-- The end of a registration, in a registry that a handle stands for. -/
theorem registry_performAll_unregister (hon : s.handles.get? on = some (.engines id))
    (name : String) :
    (performAll on [.unregister name] s).registry id = (s.registry id).unregister name ∧
      outcomesAll on [.unregister name] s = [.ok .null] := by
  have hrun : (performEngines on (.unregister name)).run s =
      (.ok .null, { s with engines := s.engines.put id ((s.registry id).unregister name) }) := by
    rw [performEngines, run_bind_ok (run_enginesAt hon)]
    rfl
  rw [performAll, performAll, outcomesAll, outcomesAll, hrun]
  exact ⟨(registry_put id _ rfl id).trans (if_pos rfl), rfl⟩

/-- **An engine that is unregistered leaves no trace.**  A new engine is registered, other engines
are registered and unregistered, and then it is unregistered.  Each step about the others ends as
it would without the engine, and so does the registry: the same names have the same classes, and
the same names claim each extension, in the same order.  If nothing has happened in between, even
the order of the entries is as before. -/
theorem unregistered_leaves_no_trace (s : Session) (on : String) (id : Nat) (name : String)
    (offer : Offer) (c : EngineClass) (extensions : List String) (steps : List EnginesStep)
    (hon : s.handles.get? on = some (.engines id)) (hreach : (s.registry id).Reachable)
    (hnew : (s.registry id).has name = false)
    (hoffer : ((evalOffer offer).run s).1 = .ok (.cls c)) (hc : c.isEngine = true)
    (hsteps : ∀ step ∈ steps, ∃ other, step.subject? = some other ∧ other ≠ name) :
    ∀ first ∈ [EnginesStep.register name offer extensions, .add name offer extensions],
      let started := performAll on [first] s
      let ended := (performAll on ([first] ++ steps ++ [.unregister name]) s).registry id
      let never := (performAll on steps s).registry id
      ((∃ o, outcomesAll on [first] s = [.ok o]) ∧
        started.registry id = (s.registry id).enter name c extensions) ∧
      outcomesAll on steps started = outcomesAll on steps s ∧
      outcomesAll on [.unregister name] (performAll on steps started) = [.ok .null] ∧
      (∀ other, ended.get? other = never.get? other) ∧
      (∀ key, ended.claims.get? key = never.claims.get? key) ∧
      (steps = [] → ended = s.registry id) := by
  have hsound : (s.registry id).Sound := sound_of_reachable hreach
  have hacc : (s.registry id).accept name (.cls c) = .ok c := by
    refine accept_eq_ok_iff.2 ⟨rfl, hc, fun existing hexisting => ?_⟩
    have hhas : (s.registry id).has name = true := Option.isSome_iff_exists.2 ⟨existing, hexisting⟩
    rw [hnew] at hhas
    cases hhas
  -- both ways to register come to the same session
  have hfirst : ∀ first ∈ [EnginesStep.register name offer extensions, .add name offer extensions],
      ∃ o, (performEngines on first).run s = (.ok o, s.entered id name c extensions) := by
    intro first hmem
    have hrun := run_offered (run_enginesAt hon) hoffer name extensions
    rw [hacc] at hrun
    simp only [List.mem_cons, List.not_mem_nil, or_false] at hmem
    rcases hmem with rfl | rfl
    · exact ⟨_, hrun fun _ => .null⟩
    · exact ⟨_, hrun .cls⟩
  intro first hmem started ended never
  obtain ⟨o, hrun⟩ := hfirst first hmem
  have hstarted : started = s.entered id name c extensions := congrArg Prod.snd hrun
  obtain ⟨houts, hafter⟩ :=
    (apart_entered hon hsound hnew c extensions).performAll hsteps
  rw [← hstarted] at houts hafter
  obtain ⟨hend, hendout⟩ := registry_performAll_unregister hafter.handle name
  have hended : ended = ((performAll on steps started).registry id).unregister name := by
    rw [← hend, ← performAll_append, ← performAll_append, ← List.append_assoc]
  refine ⟨⟨⟨o, ?_⟩, ?_⟩, houts, hendout, ?_, ?_, ?_⟩
  · rw [outcomesAll, outcomesAll, hrun]
  · rw [hstarted, registry_entered, if_pos rfl]
  · rw [hended]
    exact hafter.registry.classes
  · rw [hended]
    exact hafter.registry.claims
  · rintro rfl
    rw [hended, performAll, hstarted, registry_entered, if_pos rfl]
    exact hsound.unregister_enter hnew c extensions

/-- A session with an engine for one extension. -/
def oneEngine : Session :=
  performAll "engines" [.register "md" (.cls "Markdown") [".md"]] twoEngines

theorem reachable_oneEngine : (oneEngine.registry 3).Reachable :=
  reachable_performAll reachable_twoEngines 3

/-- An engine takes an extension over and keeps the entry of another one alive while its claimant
ends.  After its own end only the order of the entries could tell. -/
theorem plain_engine_leaves_no_trace :
    let steps : List EnginesStep :=
      [.register "md" (.cls "Markdown") ["text"], .register "html" (.cls "object") [],
        .unregister "md", .add "html" (.cls "Markdown") [".html", "MD"]]
    let first : EnginesStep := .register "txt" (.cls "Plain") ["Md", ".text"]
    let ended :=
      (performAll "engines" ([first] ++ steps ++ [.unregister "txt"]) oneEngine).registry 3
    let never := (performAll "engines" steps oneEngine).registry 3
    outcomesAll "engines" steps (performAll "engines" [first] oneEngine) =
        outcomesAll "engines" steps oneEngine ∧
      ended.claims.get? ".md" = some ["html"] ∧ ended.claims.get? ".text" = none ∧
      ended.claims.keys = [".md", ".html"] ∧ never.claims.keys = [".html", ".md"] := by
  intro steps first ended never
  obtain ⟨-, houts, -, -, hclaims, -⟩ := unregistered_leaves_no_trace oneEngine "engines" 3 "txt"
    (.cls "Plain") (.derived ⟨2, "Plain", none, none, none⟩ .template) ["Md", ".text"] steps
    (by decide +kernel) reachable_oneEngine (by decide +kernel) (by decide +kernel) rfl
    (by simp [steps, EnginesStep.subject?]) first (by simp [first])
  refine ⟨houts, ?_, ?_, by decide +kernel, by decide +kernel⟩
  · exact (hclaims ".md").trans (by decide +kernel)
  · exact (hclaims ".text").trans (by decide +kernel)

end Session

end AssetPipeline
