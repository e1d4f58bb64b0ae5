/-
AssetPipeline/Proofs/Session/Registration.lean

Registering and unregistering engines, from an empty registry on.

A session is given a row of registrations and ends of registrations.  Some of them fail,
and then nothing has happened; the others are the history of the registry (`editsOf`).

Main statements: `follows_perform` says what one such step does, `refines_performAll`
that a row of them keeps registry and history in step, and `registry_tells_history` reads
off what the registry then answers: its classes and its claims are those of its history.
-/
import AssetPipeline.Proofs.Engine.History
import AssetPipeline.Proofs.Session.Engines

namespace AssetPipeline

open Engines

/-- Whether the step registers an engine or ends a registration. -/
def EnginesStep.isEdit : EnginesStep → Bool
  | .register .. | .add .. | .unregister _ => true
  | _ => false

namespace Session

variable {s : Session} {id : Nat} {on name : String} {past : List Edit}
  {extensions : List String} {offer : Offer} {step : EnginesStep} {steps : List EnginesStep}

/-! ### Rows of steps -/

/-- The session after steps on a registry, whether they fail or not. -/
def performAll (on : String) : List EnginesStep → Session → Session
  | [], s => s
  | step :: rest, s => performAll on rest ((performEngines on step).run s).2

/-- What a step does to a registry if it does not fail. -/
def intent? (s : Session) : EnginesStep → Option Edit
  | .register name offer extensions | .add name offer extensions =>
    match ((evalOffer offer).run s).1 with
    | .ok (.cls c) => some (.registered name c extensions)
    | _ => none
  | .unregister name => some (.unregistered name)
  | _ => none

/-- What a step has done to a registry: nothing if it has failed. -/
def edit? (on : String) (s : Session) (step : EnginesStep) : Option Edit :=
  match ((performEngines on step).run s).1 with
  | .ok _ => s.intent? step
  | .error _ => none

/-- What a row of steps has done to a registry, in order. -/
def editsOf (on : String) : List EnginesStep → Session → List Edit
  | [], _ => []
  | step :: rest, s =>
    (edit? on s step).toList ++ editsOf on rest ((performEngines on step).run s).2

/-! ### One step -/

/-- What a step leaves behind: the handles as they were, and a registry in step with the history
that the step adds to. -/
structure Follows (id : Nat) (s : Session) (edit : Option Edit) (after : Session) : Prop where
  handles : after.handles = s.handles
  refines : ∀ past, Refines past (s.registry id) →
    Refines (past ++ edit.toList) (after.registry id)

/-- Nothing has happened. -/
theorem follows_none : Follows id s none s where
  handles := rfl
  refines past h := by simpa using h

theorem follows_entered {candidate : Candidate} {c : EngineClass}
    (hok : (s.registry id).accept name candidate = .ok c) :
    Follows id s (some (.registered name c extensions)) (s.entered id name c extensions) where
  handles := rfl
  refines past h := by
    rw [registry_entered, if_pos rfl]
    exact refines_enter h hok

/-- A registration fails and leaves everything as it is, or enters the class that is offered. -/
theorem run_registration (hon : s.handles.get? on = some (.engines id)) (name : String)
    (offer : Offer) (extensions : List String) (answer : EngineClass → Object) :
    ∃ out after,
      ((do
        let id ← enginesAt on
        let c ← register id name (← evalOffer offer) extensions
        return answer c : Run Object)).run s = (out, after) ∧
      Follows id s
        (match out with
          | .ok _ => s.intent? (.register name offer extensions)
          | .error _ => none) after := by
  rcases hoffer : ((evalOffer offer).run s).1 with halt | candidate
  · have hrun : (evalOffer offer).run s = (.error halt, s) :=
      Prod.ext hoffer ((views_evalOffer offer).looks s).symm
    rw [run_bind_ok (run_enginesAt hon)]
    exact ⟨_, _, run_bind_error hrun, follows_none⟩
  · have hrun := run_offered (run_enginesAt hon) hoffer name extensions answer
    rcases hacc : (s.registry id).accept name candidate with why | c
    · -- refused, and then nothing has been written anywhere
      rw [hacc] at hrun
      exact ⟨_, _, hrun, follows_none⟩
    · rw [hacc] at hrun
      refine ⟨_, _, hrun, ?_⟩
      obtain ⟨rfl, -, -⟩ := accept_eq_ok_iff.1 hacc
      simp only [intent?, hoffer]
      exact follows_entered hacc

/-- **A step keeps registry and history in step.** -/
theorem follows_perform (hon : s.handles.get? on = some (.engines id))
    (hedit : step.isEdit = true) :
    Follows id s (edit? on s step) ((performEngines on step).run s).2 := by
  cases step with
  | register name offer extensions =>
    obtain ⟨out, after, hrun, hfollows⟩ :=
      run_registration hon name offer extensions fun _ => .null
    rw [edit?, performEngines, hrun]
    exact hfollows
  | add name offer extensions =>
    obtain ⟨out, after, hrun, hfollows⟩ := run_registration hon name offer extensions .cls
    rw [edit?, performEngines, hrun]
    exact hfollows
  | unregister name =>
    have hrun : (performEngines on (.unregister name)).run s =
        (.ok .null, { s with engines := s.engines.put id ((s.registry id).unregister name) }) := by
      rw [performEngines, run_bind_ok (run_enginesAt hon)]
      rfl
    rw [edit?, hrun]
    refine ⟨rfl, ?_⟩
    intro past h
    have hreg : ({ s with engines := s.engines.put id ((s.registry id).unregister name) } :
        Session).registry id = (s.registry id).unregister name :=
      (registry_put id _ rfl id).trans (if_pos rfl)
    rw [hreg]
    exact refines_unregister h name
  | _ => cases hedit

/-! ### A row of steps -/

/-- **A row of steps keeps registry and history in step.** -/
theorem refines_performAll (hon : s.handles.get? on = some (.engines id))
    (hedits : ∀ step ∈ steps, step.isEdit = true) (h : Refines past (s.registry id)) :
    Refines (past ++ editsOf on steps s) ((performAll on steps s).registry id) := by
  induction steps generalizing s past with
  | nil =>
    rw [editsOf, List.append_nil]
    exact h
  | cons step rest ih =>
    -- the handle goes on standing for the registry, and its history has grown by the step
    have hstep := follows_perform hon (hedits step List.mem_cons_self)
    rw [editsOf, ← List.append_assoc]
    refine ih ?_ ?_ (hstep.refines past h)
    · rw [hstep.handles]
      exact hon
    · intro step' hmem
      exact hedits step' (List.mem_cons_of_mem step hmem)

/-- Registrations and their ends have brought about what a row of steps leaves. -/
theorem reachable_performAll (h : s.EnginesReachable) :
    (performAll on steps s).EnginesReachable := by
  induction steps generalizing s with
  | nil => exact h
  | cons step rest ih => exact ih (reachably_performEngines on step s h)

/-- **A registry tells its history.**  After any row of registrations and ends of registrations, a
name has the class of its registrations since its end.  An extension has an entry if somebody
claims it: the names that have claimed it since their end, in the order of their latest claims,
which leaves no choice.  The latest claimant handles the extension, and with its end the one before
it does again. -/
theorem registry_tells_history (s : Session) (on : String) (id : Nat) (steps : List EnginesStep)
    (hon : s.handles.get? on = some (.engines id)) (hempty : s.registry id = .empty)
    (hedits : ∀ step ∈ steps, step.isEdit = true) :
    (∀ name,
      ((performAll on steps s).registry id).get? name =
        (registrations name (editsOf on steps s)).getLast? ∧
      ∀ c ∈ registrations name (editsOf on steps s), ∀ c',
        ((performAll on steps s).registry id).get? name = some c' → c.same c' = true) ∧
    ∀ key, ∃ names,
      ClaimOrder key (editsOf on steps s) names ∧
      (∀ names', ClaimOrder key (editsOf on steps s) names' → names' = names) ∧
      (∀ name ∈ names, ((performAll on steps s).registry id).has name = true) ∧
      ((performAll on steps s).registry id).claims.get? key =
        (if names = [] then none else some names) ∧
      ((performAll on steps s).registry id).extensions.get? key = names.getLast? ∧
      ∀ last, names.getLast? = some last →
        (((performAll on steps s).registry id).unregister last).extensions.get? key =
          names.dropLast.getLast? := by
  have h : Refines (editsOf on steps s) ((performAll on steps s).registry id) := by
    have hstart : Refines [] (s.registry id) := by
      rw [hempty]
      exact refines_empty
    exact refines_performAll hon hedits hstart
  refine ⟨?_, ?_⟩
  · intro name
    refine ⟨h.cls name, ?_⟩
    intro c hc c' hc'
    exact h.same name c' hc' c hc
  · intro key
    refine ⟨_, h.order key, ?_, ?_, h.get?_claims, get?_extensions, ?_⟩
    · intro names' hnames'
      exact hnames'.unique (h.order key)
    · intro name hmem
      exact h.has_of_mem hmem
    · intro last hlast
      exact h.extensions_unregister hlast

/-- A session with two classes of engines and an empty registry. -/
def twoEngines : Session :=
  { initial Dict.empty .still with
    classes := Dict.ofList
      [("Markdown", .derived ⟨1, "Markdown", none, none, none⟩ .template),
        ("Plain", .derived ⟨2, "Plain", none, none, none⟩ .template)]
    handles := Dict.ofList [("engines", .engines 3)] }

theorem reachable_twoEngines : twoEngines.EnginesReachable := fun _ => .empty

/-- Two names claim an extension in several spellings, and one of them fails to take another class.
The later claimant handles the extension, and the earlier one when that has ended. -/
theorem claims_of_two_engines :
    let steps : List EnginesStep :=
      [.register "md" (.cls "Markdown") [".md", "MD"], .add "txt" (.cls "Plain") ["Md"],
        .register "md" (.cls "Plain") ["md"]]
    let e := (performAll "engines" steps twoEngines).registry 3
    ClaimOrder ".md" (editsOf "engines" steps twoEngines) ["md", "txt"] ∧
      e.extensions.get? ".md" = some "txt" ∧
      (e.unregister "txt").extensions.get? ".md" = some "md" := by
  intro steps e
  obtain ⟨names, horder, -, -, hclaims, hhandler, hback⟩ :=
    (registry_tells_history twoEngines "engines" 3 steps rfl rfl (by decide)).2 ".md"
  have hnames : names = ["md", "txt"] := by
    have hget : e.claims.get? ".md" = some ["md", "txt"] := by decide +kernel
    rw [hget] at hclaims
    split at hclaims
    · cases hclaims
    · exact (Option.some.inj hclaims).symm
  subst hnames
  exact ⟨horder, hhandler, hback "txt" rfl⟩

end Session

end AssetPipeline
