/-
AssetPipeline/Proofs/Session/Commuting.lean

Registrations that have nothing in common may come in either order.

Two engines are registered under different names, and they claim different extensions.
Whichever is registered first, both registrations end as they would alone, and the registries
that come out are alike.  From then on nothing that is asked of the session tells which came
first: answers read the same, and so do faults, but for the order in which a report on an
unknown engine lists what is known.  The reading of who handles what is the same map.

Main statements: `alike_afterAll` for what is asked of sessions that are alike, and
`registrations_commute` for the order of two registrations.
-/
import AssetPipeline.Proofs.Session.Alike

namespace AssetPipeline

/-! ### What is compared -/

/-- Two answers to a step show the same, the reading of who handles what as a map. -/
def Step.ShowsAlike : Step → Json → Json → Prop
  | .engines _ .extensions, shown, shown' =>
    ∃ pairs pairs' : List (String × String),
      shown = .array (pairs.map fun p => Json.strings [p.1, p.2]) ∧
        shown' = .array (pairs'.map fun p => Json.strings [p.1, p.2]) ∧ pairs.Perm pairs'
  | _, shown, shown' => shown = shown'

/-- Two answers to a step are the same, but for the order in which a report on an unknown engine
lists what is known. -/
structure Answer.Alike (step : Step) (a a' : Answer) : Prop where
  outcome : Outcome.Alike Halt.Alike step.ShowsAlike a.outcome a'.outcome
  log : a.log.map Event.toJson = a'.log.map Event.toJson

/-- A reading of who handles what is not given a handle, so that nobody can come back to its
order. -/
def Request.Forgetful (r : Request) : Prop :=
  ∀ on, r.step = .engines on .extensions → r.handle = none

theorem Step.showsAlike_refl {step : Step} (h : ∀ on, step ≠ .engines on .extensions)
    (shown : Json) : step.ShowsAlike shown shown := by
  unfold ShowsAlike
  split
  · next on => exact absurd rfl (h on)
  · rfl

namespace Session

variable {s s' : Session} {on name other : String} {offer offer' : Offer}
  {extensions extensions' : List String}

/-! ### Answers of sessions that are alike -/

/-- Who handles what is read as the same map. -/
theorem agree_extensions (on : String) :
    Agree Alike Halt.Alike
      (fun o o' => (Step.engines on .extensions).ShowsAlike o.toJson o'.toJson)
      (performStep (.engines on .extensions)) (performStep (.engines on .extensions)) := by
  refine (views_enginesAt on).respects.bind fun id => ?_
  refine Agree.get.bind fun s s' hs => ?_
  refine blind_freshId.respects.bind fun fresh => Agree.pure ?_
  exact ⟨_, _, rfl, rfl, (hs.registries id).entries_extensions⟩

theorem agree_serve {r : Request} (h : r.Forgetful) :
    Agree Alike Halt.Alike r.step.ShowsAlike (serve r) (serve r) := by
  rcases r with ⟨step, handle⟩
  by_cases hstep : ∃ on, step = .engines on .extensions
  · obtain ⟨on, rfl⟩ := hstep
    have hhandle : handle = none := h on rfl
    rw [hhandle]
    exact (agree_extensions on).bind fun o o' ho => Agree.pure ho
  · have hother : ∀ on, step ≠ .engines on .extensions := fun on heq => hstep ⟨on, heq⟩
    refine (respects_performStep hother).bind fun o => ?_
    refine (blind_bindOptional o handle).respects.bind fun _ => Agree.pure ?_
    exact Step.showsAlike_refl hother _

/-- An answer does not depend on what has been written down before it. -/
theorem alike_cleared (hreg : ∀ id, (s.registry id).Alike (s'.registry id))
    (hrest : ∃ engines log, s' = { s with engines := engines, log := log }) :
    Alike { s with log := [] } { s' with log := [] } where
  registries := hreg
  log := rfl
  rest := by
    obtain ⟨engines, log, rfl⟩ := hrest
    exact ⟨engines, [], rfl⟩

/-- **Sessions that are alike give answers that are alike**, and are alike afterwards. -/
theorem alike_answer {r : Request} (hr : r.Forgetful)
    (h : Alike { s with log := [] } { s' with log := [] }) :
    (answer r s).1.Alike r.step (answer r s').1 ∧ (answer r s).2.Alike (answer r s').2 := by
  obtain ⟨hout, hafter⟩ := agree_serve hr _ _ h
  exact ⟨⟨hout, hafter.log⟩, hafter⟩

/-- So they are after any number of requests. -/
theorem alike_afterAll {requests : List Request} (hr : ∀ r ∈ requests, r.Forgetful)
    (h : Alike { s with log := [] } { s' with log := [] }) :
    Alike { afterAll requests s with log := [] } { afterAll requests s' with log := [] } := by
  induction requests generalizing s s' with
  | nil => exact h
  | cons r rest ih =>
    obtain ⟨-, hafter⟩ := alike_answer (hr r List.mem_cons_self) h
    refine ih ?_ (alike_cleared hafter.registries hafter.rest)
    intro r' hmem
    exact hr r' (List.mem_cons_of_mem r hmem)

/-! ### What a registration comes to -/

/-- The request to register an engine. -/
def registering (on name : String) (offer : Offer) (extensions : List String) : Request :=
  ⟨.engines on (.register name offer extensions), none⟩

/-- The answer to a registration and the session after it, by the verdict on what is offered. -/
def concluded (s : Session) (id : Nat) (name : String) (extensions : List String) :
    Except Halt EngineClass → Answer × Session
  | .ok c =>
    (⟨.ok .null, [.engineRegistered c.name name]⟩,
      entered { s with log := [] } id name c extensions)
  | .error halt => (⟨.error halt, []⟩, { s with log := [] })

theorem answer_eq {r : Request} {out : Except Halt Json} {after : Session}
    (h : (serve r).run { s with log := [] } = (out, after)) :
    answer r s = (⟨out, after.log⟩, after) := by
  unfold answer
  rw [h]

theorem answer_registering_stopped {halt : Halt}
    (h : (performEngines on (.register name offer extensions)).run { s with log := [] } =
      (.error halt, { s with log := [] })) (id : Nat) :
    answer (registering on name offer extensions) s =
      concluded s id name extensions (.error halt) := by
  have hstep : (performStep (registering on name offer extensions).step).run { s with log := [] } =
      (.error halt, { s with log := [] }) := h
  exact answer_eq (run_bind_error hstep)

theorem answer_registering_entered {id : Nat} {c : EngineClass}
    (h : (performEngines on (.register name offer extensions)).run { s with log := [] } =
      (.ok .null, entered { s with log := [] } id name c extensions)) :
    answer (registering on name offer extensions) s = concluded s id name extensions (.ok c) := by
  have hstep : (performStep (registering on name offer extensions).step).run { s with log := [] } =
      (.ok .null, entered { s with log := [] } id name c extensions) := h
  exact answer_eq (run_bind_ok hstep)

/-- A request is a registration that is decided by a registry, and there by nothing but the class
under its name. -/
structure Decided (s : Session) (r : Request) (id : Nat) (name : String) (extensions : List String)
    (verdict : Engines → Except Halt EngineClass) : Prop where
  byName : ∀ e e' : Engines, e.accept name = e'.accept name → verdict e = verdict e'
  answered : ∀ engines log, answer r { s with engines := engines, log := log } =
    concluded { s with engines := engines, log := log } id name extensions
      (verdict (engines.getD id .empty))

/-- **A registration is decided by its registry.** -/
theorem exists_decided (s : Session) (on : String) :
    ∃ id, ∀ name offer extensions, ∃ verdict,
      Decided s (registering on name offer extensions) id name extensions verdict := by
  have hat := fun engines => views_enginesAt on s engines []
  rcases hid : ((enginesAt on).run s).1 with halt | id
  · refine ⟨0, fun name offer extensions => ⟨fun _ => .error halt, fun _ _ _ => rfl, ?_⟩⟩
    intro engines log
    rw [hid] at hat
    refine answer_registering_stopped ?_ 0
    exact run_bind_error (hat engines)
  · refine ⟨id, fun name offer extensions => ?_⟩
    rw [hid] at hat
    have hgiven := fun engines => views_evalOffer offer s engines []
    rcases hout : ((evalOffer offer).run s).1 with halt | candidate
    · refine ⟨fun _ => .error halt, fun _ _ _ => rfl, ?_⟩
      intro engines log
      rw [hout] at hgiven
      refine answer_registering_stopped ?_ id
      rw [performEngines, run_bind_ok (hat engines)]
      exact run_bind_error (hgiven engines)
    · rw [hout] at hgiven
      refine ⟨fun e => (e.accept name candidate).mapError fun why => .fault (.engineRefused why),
        ?_, ?_⟩
      · intro e e' haccept
        simp only [haccept]
      · intro engines log
        have hrun : (performEngines on (.register name offer extensions)).run
            { s with engines := engines, log := [] } = _ :=
          run_offered (hat engines) (congrArg Prod.fst (hgiven engines)) name extensions
            fun _ => .null
        have hreg : registry { s with engines := engines, log := [] } id =
            engines.getD id .empty := rfl
        rw [hreg] at hrun
        show _ = concluded _ id name extensions
          (((engines.getD id .empty).accept name candidate).mapError
            fun why => .fault (.engineRefused why))
        rcases hacc : (engines.getD id .empty).accept name candidate with why | c
        · rw [hacc] at hrun
          refine answer_registering_stopped ?_ id
          exact hrun
        · rw [hacc] at hrun
          refine answer_registering_entered ?_
          exact hrun

/-- A registry after the verdict on a registration. -/
def settled (e : Engines) (name : String) (extensions : List String) :
    Except Halt EngineClass → Engines
  | .ok c => e.enter name c extensions
  | .error _ => e

theorem registry_concluded (s : Session) (id : Nat) (name : String) (extensions : List String)
    (verdict : Except Halt EngineClass) (other : Nat) :
    (concluded s id name extensions verdict).2.registry other =
      if other = id then settled (s.registry id) name extensions verdict else s.registry other := by
  cases verdict with
  | ok c => exact registry_entered c other
  | error halt =>
    show s.registry other = if other = id then s.registry id else s.registry other
    split
    · next h => rw [h]
    · rfl

/-- A registration changes nothing but registries and the log. -/
theorem rest_concluded (s : Session) (id : Nat) (name : String) (extensions : List String)
    (verdict : Except Halt EngineClass) :
    ∃ engines log, (concluded s id name extensions verdict).2 =
      { s with engines := engines, log := log } := by
  cases verdict with
  | ok c => exact ⟨_, _, rfl⟩
  | error halt => exact ⟨_, _, rfl⟩

/-- The verdicts on two registrations may come in either order. -/
theorem alike_settled_settled (e : Engines) (hname : name ≠ other)
    (hext : ∀ key ∈ extensions.map Extension.normalize,
      key ∉ extensions'.map Extension.normalize) (verdict verdict' : Except Halt EngineClass) :
    Engines.Alike (settled (settled e name extensions verdict) other extensions' verdict')
      (settled (settled e other extensions' verdict') name extensions verdict) := by
  rcases verdict with halt | c
  · exact Engines.alike_refl _
  · rcases verdict' with halt' | c'
    · exact Engines.alike_refl _
    · exact Engines.alike_enter_enter hname hext

theorem accept_settled (e : Engines) (h : name ≠ other) (verdict : Except Halt EngineClass) :
    (settled e other extensions verdict).accept name = e.accept name := by
  funext candidate
  cases verdict with
  | ok c => exact Engines.accept_enter_of_ne h candidate
  | error halt => rfl

/-- What a registration answers depends on nothing but the verdict. -/
theorem answer_concluded (s s' : Session) (id : Nat) (name : String) (extensions : List String)
    (verdict : Except Halt EngineClass) :
    (concluded s id name extensions verdict).1 = (concluded s' id name extensions verdict).1 := by
  cases verdict <;> rfl

/-- Sessions after two registrations, whichever has come first. -/
theorem alike_concluded_concluded (s : Session) (id : Nat) (hname : name ≠ other)
    (hext : ∀ key ∈ extensions.map Extension.normalize,
      key ∉ extensions'.map Extension.normalize) (verdict verdict' : Except Halt EngineClass) :
    Alike
      { (concluded (concluded s id name extensions verdict).2 id other extensions' verdict').2 with
        log := [] }
      { (concluded (concluded s id other extensions' verdict').2 id name extensions verdict).2 with
        log := [] } := by
  refine alike_cleared ?_ ?_
  · intro third
    simp only [registry_concluded]
    by_cases hthird : third = id
    · simp only [hthird, if_true]
      exact alike_settled_settled (s.registry id) hname hext verdict verdict'
    · simp only [hthird, if_false]
      exact Engines.alike_refl _
  · obtain ⟨engines₁, log₁, hfirst⟩ := rest_concluded s id name extensions verdict
    obtain ⟨engines₂, log₂, hsecond⟩ := rest_concluded s id other extensions' verdict'
    rw [hfirst, hsecond]
    obtain ⟨engines₃, log₃, hthird⟩ := rest_concluded { s with engines := engines₁, log := log₁ }
      id other extensions' verdict'
    obtain ⟨engines₄, log₄, hfourth⟩ := rest_concluded { s with engines := engines₂, log := log₂ }
      id name extensions verdict
    rw [hthird, hfourth]
    exact ⟨engines₄, log₄, rfl⟩

/-- Another registration before has no part in the verdict. -/
theorem Decided.after {r : Request} {id : Nat} {verdict : Engines → Except Halt EngineClass}
    (h : Decided s r id name extensions verdict) (hname : name ≠ other)
    (earlier : Except Halt EngineClass) :
    answer r (concluded s id other extensions' earlier).2 =
      concluded (concluded s id other extensions' earlier).2 id name extensions
        (verdict (s.registry id)) := by
  have hkept : verdict ((concluded s id other extensions' earlier).2.registry id) =
      verdict (s.registry id) := by
    rw [registry_concluded, if_pos rfl]
    exact h.byName _ _ (accept_settled _ hname earlier)
  obtain ⟨engines, log, hrest⟩ := rest_concluded s id other extensions' earlier
  rw [← hkept, hrest]
  exact h.answered engines log

/-! ### The order of two registrations -/

/-- **Registrations with nothing in common commute.**  Under different names and for different
extensions, each registration ends in the same way and writes down the same whichever comes first,
and the sessions that come out are alike.  Sessions that are alike stay so whatever is asked of
them, and whatever is asked has answers that are alike; what has been written down before an answer
has no part in it.  Faults that are alike have the same kinds, messages and fields, suggestions
included. -/
theorem registrations_commute (s : Session) (on : String) (offer offer' : Offer)
    (hname : name ≠ other)
    (hext : ∀ key ∈ extensions.map Extension.normalize,
      key ∉ extensions'.map Extension.normalize) :
    let first := registering on name offer extensions
    let second := registering on other offer' extensions'
    let s₁ := (answer second (answer first s).2).2
    let s₂ := (answer first (answer second s).2).2
    (answer first s).1 = (answer first (answer second s).2).1 ∧
    (answer second s).1 = (answer second (answer first s).2).1 ∧
    Alike { s₁ with log := [] } { s₂ with log := [] } ∧
    (∀ t t' : Session, Alike { t with log := [] } { t' with log := [] } →
      ∀ requests, (∀ r ∈ requests, r.Forgetful) →
        Alike { afterAll requests t with log := [] } { afterAll requests t' with log := [] } ∧
          ∀ r, r.Forgetful →
            (answer r (afterAll requests t)).1.Alike r.step (answer r (afterAll requests t')).1) ∧
    ∀ fault fault' : Fault, fault.Alike fault' →
      fault.kind = fault'.kind ∧ fault.message = fault'.message ∧
        fault.contract? = fault'.contract? ∧ fault.generalKinds = fault'.generalKinds := by
  intro first second s₁ s₂
  obtain ⟨id, hdecided⟩ := exists_decided s on
  obtain ⟨verdict, hfirst⟩ := hdecided name offer extensions
  obtain ⟨verdict', hsecond⟩ := hdecided other offer' extensions'
  have hone : answer first s = concluded s id name extensions (verdict (s.registry id)) :=
    hfirst.answered s.engines s.log
  have htwo : answer second s = concluded s id other extensions' (verdict' (s.registry id)) :=
    hsecond.answered s.engines s.log
  have hsecondLast :
      answer second (concluded s id name extensions (verdict (s.registry id))).2 = _ :=
    hsecond.after hname.symm _
  have hfirstLast :
      answer first (concluded s id other extensions' (verdict' (s.registry id))).2 = _ :=
    hfirst.after hname _
  rw [← hone] at hsecondLast
  rw [← htwo] at hfirstLast
  refine ⟨?_, ?_, ?_, ?_, ?_⟩
  · rw [hone, hfirstLast]
    exact answer_concluded _ _ id name extensions _
  · rw [htwo, hsecondLast]
    exact answer_concluded _ _ id other extensions' _
  · show Alike { (answer second (answer first s).2).2 with log := [] }
      { (answer first (answer second s).2).2 with log := [] }
    rw [hsecondLast, hfirstLast, hone, htwo]
    exact alike_concluded_concluded s id hname hext _ _
  · intro t t' ht requests hforgetful
    have hafter := alike_afterAll hforgetful ht
    refine ⟨hafter, ?_⟩
    intro r hr
    exact (alike_answer hr hafter).1
  · intro fault fault' hfault
    exact ⟨Fault.kind_eq_of_alike hfault, Fault.message_eq_of_alike hfault,
      Fault.contract?_eq_of_alike hfault, Fault.generalKinds_eq_of_alike hfault⟩

/-- A session with a registry and two engines. -/
def twoEngineSession : Session :=
  (answer ⟨.newEngines, some "engines"⟩
    (declareAll [⟨"Markdown", "Markdown", "Template", none, none, none⟩,
      ⟨"Html", "Html", "Template", none, none, none⟩] (initial Dict.empty .still))).2

/-- The session after registrations. -/
def registered (requests : List Request) : Session := afterAll requests twoEngineSession

/-- The same engine is not found, and only the order of those that are known tells which came
first. -/
theorem unknown_engine_of_two :
    let first := registering "engines" "markdown" (.cls "Markdown") [".md"]
    let second := registering "engines" "html" (.cls "Html") ["HTML"]
    let resolving : Request := ⟨.engines "engines" (.resolve "markdwon"), none⟩
    (∀ key ∈ [".md"].map Extension.normalize, key ∉ ["HTML"].map Extension.normalize) ∧
      (answer resolving (registered [first, second])).1.outcome =
        .error (.fault (.engineUnknown "markdwon" ["markdown", "html"])) ∧
      (answer resolving (registered [second, first])).1.outcome =
        .error (.fault (.engineUnknown "markdwon" ["html", "markdown"])) ∧
      (answer resolving (registered [first, second])).1.Alike resolving.step
        (answer resolving (registered [second, first])).1 := by
  intro first second resolving
  have hext : ∀ key ∈ [".md"].map Extension.normalize, key ∉ ["HTML"].map Extension.normalize := by
    decide +kernel
  obtain ⟨-, -, halike, hlater, -⟩ := registrations_commute twoEngineSession "engines"
    (.cls "Markdown") (.cls "Html") (show "markdown" ≠ "html" by decide) hext
  have hforgetful : resolving.Forgetful := fun _ _ => rfl
  refine ⟨hext, by decide +kernel, by decide +kernel, ?_⟩
  exact (hlater _ _ halike [] (fun r hr => by cases hr)).2 resolving hforgetful

end Session

end AssetPipeline
