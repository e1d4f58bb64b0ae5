/-
AssetPipeline/Proofs/Session/Acceptance.lean

Registering an engine does all of it or nothing.

Both ways to register come to the same.  A candidate that is refused leaves the session as it is,
down to the log; one that is accepted changes one registry, as `Engines.Enrolled` says, and puts
one event into the log.  The same registration is then accepted again, and finds everything as it
would leave it.

Main statement: `registration_all_or_nothing`, for registries that registrations and their ends
have brought about.
-/
import AssetPipeline.Proofs.Engine.Acceptance
import AssetPipeline.Proofs.Session.Withdrawal

namespace AssetPipeline.Session

open Engines

variable {s : Session} {id : Nat} {on name : String} {offer : Offer} {candidate : Candidate}
  {c : EngineClass} {extensions : List String} {step : EnginesStep}

/-! ### Registering once more -/

/-- A class that has been entered is accepted again. -/
theorem accept_entered (hc : c.isEngine = true) :
    ((s.entered id name c extensions).registry id).accept name (.cls c) = .ok c := by
  rw [registry_entered, if_pos rfl]
  refine accept_eq_ok_iff.2 ⟨rfl, hc, fun existing hexisting => ?_⟩
  rw [get?_enter, if_pos rfl, Option.some.injEq] at hexisting
  subst hexisting
  exact EngineClass.same_self c

/-- Entering a class once more leaves the registries as they are, down to the order of entries. -/
theorem engines_entered_entered (h : (s.registry id).Sound) (name : String) (c : EngineClass)
    (extensions : List String) :
    ((s.entered id name c extensions).entered id name c extensions).engines =
      (s.entered id name c extensions).engines := by
  have hreg : ((s.entered id name c extensions).registry id).enter name c extensions =
      (s.registry id).enter name c extensions := by
    rw [registry_entered, if_pos rfl]
    exact h.enter_enter name c extensions
  show (s.entered id name c extensions).engines.put id
    (((s.entered id name c extensions).registry id).enter name c extensions) = _
  rw [hreg]
  refine Dict.put_of_get? ?_
  show (s.engines.put id ((s.registry id).enter name c extensions)).get? id = _
  rw [Dict.get?_put, if_pos rfl]

/-- A registration that has been accepted is accepted again. -/
theorem run_offered_again (hon : s.handles.get? on = some (.engines id))
    (hoffer : ((evalOffer offer).run s).1 = .ok (.cls c)) (hc : c.isEngine = true)
    (name : String) (extensions : List String) (answer : EngineClass → Object) :
    ((do
      let id ← enginesAt on
      let c ← register id name (← evalOffer offer) extensions
      return answer c : Run Object)).run (s.entered id name c extensions) =
      (.ok (answer c),
        (s.entered id name c extensions).entered id name c extensions) := by
  have hoffer' : ((evalOffer offer).run (s.entered id name c extensions)).1 = .ok (.cls c) := by
    -- what is offered depends on neither registries nor the log
    have hviews := views_evalOffer offer s (s.entered id name c extensions).engines
      (s.entered id name c extensions).log
    exact (congrArg Prod.fst hviews).trans hoffer
  have hon' : (enginesAt on).run (s.entered id name c extensions) =
      (.ok id, s.entered id name c extensions) := run_enginesAt hon
  have hrun := run_offered hon' hoffer' name extensions answer
  rw [accept_entered hc] at hrun
  exact hrun

/-! ### All or nothing -/

/-- **A registration does all of it or nothing.**  It fails if what is offered is no class with the
template class above it, or else if a class from another declaration goes by the name; then nothing
has changed, and nothing is written down.  Otherwise the name goes to the class and to the end of
the claims on the given extensions, while all other names keep their classes and their order.  The
same registration can be made again, and changes neither the entries of a registry nor their
order. -/
theorem registration_all_or_nothing (s : Session) (on : String) (id : Nat) (name : String)
    (offer : Offer) (candidate : Candidate) (extensions : List String)
    (hon : s.handles.get? on = some (.engines id)) (hreach : (s.registry id).Reachable)
    (hoffer : ((evalOffer offer).run s).1 = .ok candidate) :
    let e := s.registry id
    let register := EnginesStep.register name offer extensions
    let add := EnginesStep.add name offer extensions
    let registered := (performEngines on register).run s
    let added := (performEngines on add).run s
    ((∃ halt, registered.1 = .error halt) ↔
      (¬ ∃ c, candidate = .cls c ∧ .template ∈ c.ancestry) ∨
        ∃ c existing, candidate = .cls c ∧ e.get? name = some existing ∧
          existing.same c = false) ∧
    (∀ halt, registered.1 = .error halt →
      (∃ why, e.Refused name candidate why ∧ halt = .fault (.engineRefused why)) ∧
        registered.2 = s) ∧
    (∀ halt, added.1 = .error halt ↔ registered.1 = .error halt) ∧
    added.2 = registered.2 ∧
    ∀ o, registered.1 = .ok o →
      ∃ c, candidate = .cls c ∧ added.1 = .ok (.cls c) ∧
        (∃ engines, registered.2 =
          { s with engines := engines, log := s.log ++ [.engineRegistered c.name name] }) ∧
        (∀ other, other ≠ id → registered.2.registry other = s.registry other) ∧
        e.Enrolled name c extensions (registered.2.registry id) ∧
        ∀ step ∈ [register, add],
          let again := (performEngines on step).run registered.2
          (∃ o', again.1 = .ok o') ∧ again.2.engines = registered.2.engines := by
  intro e register add registered added
  have hsound : e.Sound := sound_of_reachable hreach
  have hregistered : registered = _ :=
    run_offered (run_enginesAt hon) hoffer name extensions fun _ => .null
  have hadded : added = _ := run_offered (run_enginesAt hon) hoffer name extensions .cls
  rw [← exists_refused_iff]
  rcases hacc : (s.registry id).accept name candidate with why | c
  · rw [hacc] at hregistered hadded
    have hrefused : e.Refused name candidate why := accept_eq_error_iff.1 hacc
    rw [hregistered, hadded]
    refine ⟨⟨fun _ => ⟨why, hrefused⟩, fun _ => ⟨_, rfl⟩⟩, ?_, fun _ => Iff.rfl, rfl, ?_⟩
    · intro halt hhalt
      cases hhalt
      exact ⟨⟨why, hrefused, rfl⟩, rfl⟩
    · intro o ho
      cases ho
  · rw [hacc] at hregistered hadded
    obtain ⟨rfl, hc, -⟩ := accept_eq_ok_iff.1 hacc
    have hagain := run_offered_again hon hoffer hc name extensions
    have hengines := engines_entered_entered hsound name c extensions
    rw [hregistered, hadded]
    refine ⟨⟨?_, ?_⟩, ?_, fun halt => ?_, rfl, ?_⟩
    · rintro ⟨halt, hhalt⟩
      cases hhalt
    · rintro ⟨why, hwhy⟩
      have herr : (s.registry id).accept name (.cls c) = .error why := accept_eq_error_iff.2 hwhy
      rw [hacc] at herr
      cases herr
    · intro halt hhalt
      cases hhalt
    · constructor <;> intro hhalt <;> cases hhalt
    · intro o ho
      refine ⟨c, rfl, rfl, ⟨_, rfl⟩, ?_, ?_, ?_⟩
      · intro other hother
        rw [registry_entered, if_neg hother]
      · rw [registry_entered, if_pos rfl]
        exact hsound.enrolled name c extensions
      · intro step hmem again
        simp only [List.mem_cons, List.not_mem_nil, or_false] at hmem
        rcases hmem with rfl | rfl
        · have hrun : again = _ := hagain fun _ => .null
          rw [hrun]
          exact ⟨⟨_, rfl⟩, hengines⟩
        · have hrun : again = _ := hagain .cls
          rw [hrun]
          exact ⟨⟨_, rfl⟩, hengines⟩

/-- A session with two engines for one extension, and a class that has the name of one of them. -/
def namesakes : Session :=
  let other : EngineClass := .derived ⟨3, "Markdown", none, none, none⟩ .template
  performAll "engines"
    [.register "md" (.cls "Markdown") [".md"], .register "txt" (.cls "Plain") ["MD"]]
    { twoEngines with classes := twoEngines.classes.put "Other" other }

theorem reachable_namesakes : (namesakes.registry 3).Reachable := by
  refine reachable_performAll ?_ 3
  exact fun _ => .empty

/-- A class is not taken for another one of its name.  The class that is registered already may be
registered again; it claims an extension that another name has claimed since, and gets behind it. -/
theorem namesake_refused :
    let refused := (performEngines "engines" (.register "md" (.cls "Other") ["md"])).run namesakes
    let again := (performEngines "engines" (.register "md" (.cls "Markdown") ["md"])).run namesakes
    (∃ why, (namesakes.registry 3).Refused "md"
        (.cls (.derived ⟨3, "Markdown", none, none, none⟩ .template)) why ∧
      refused.1 = .error (.fault (.engineRefused why))) ∧
    refused.2 = namesakes ∧
    (namesakes.registry 3).claims.get? ".md" = some ["md", "txt"] ∧
    (again.2.registry 3).claimants ".md" = ["txt", "md"] := by
  intro refused again
  have hon : namesakes.handles.get? "engines" = some (.engines 3) := by decide +kernel
  obtain ⟨hfails, hrefused, -⟩ := registration_all_or_nothing namesakes "engines" 3 "md"
    (.cls "Other") (.cls (.derived ⟨3, "Markdown", none, none, none⟩ .template)) ["md"] hon
    reachable_namesakes rfl
  obtain ⟨halt, hhalt⟩ := hfails.2 (.inr
    ⟨_, .derived ⟨1, "Markdown", none, none, none⟩ .template, rfl, by decide +kernel, rfl⟩)
  obtain ⟨⟨why, hwhy, rfl⟩, hsame⟩ := hrefused halt hhalt
  refine ⟨⟨why, hwhy, hhalt⟩, hsame, by decide +kernel, ?_⟩
  obtain ⟨-, -, -, -, haccepted⟩ := registration_all_or_nothing namesakes "engines" 3 "md"
    (.cls "Markdown") (.cls (.derived ⟨1, "Markdown", none, none, none⟩ .template)) ["md"] hon
    reachable_namesakes rfl
  obtain ⟨c, -, -, -, -, henrolled, -⟩ := haccepted .null rfl
  rw [henrolled.claimed ".md" (by decide +kernel)]
  decide +kernel

end AssetPipeline.Session
