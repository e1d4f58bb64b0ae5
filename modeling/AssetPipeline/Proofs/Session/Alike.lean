/-
AssetPipeline/Proofs/Session/Alike.lean

Sessions whose registries differ in nothing but the order of their entries.

Two sessions are alike if their registries are, if what has been written down reads the same,
and if everything else is the same (`Alike`).  No program can tell them apart: it gives the
same value in both, or stops for the same reason, up to the order in which a report on an
unknown engine lists what is known, and leaves sessions behind that are alike again
(`Respects`).  Most programs do not look at registries or at the log at all (`Blind`), those
that only look among them.

Main statements: `respects_render` for renders, `respects_performStep` for steps and
`alike_answer` for answers; only the reading of who handles what shows the order.
-/
import AssetPipeline.Proofs.Session.Congruence
import AssetPipeline.Proofs.Session.Engines
import AssetPipeline.Proofs.Session.TwoRuns

namespace AssetPipeline

/-- Reasons to stop that differ at most in the order in which a report lists what is known. -/
inductive Halt.Alike : Halt → Halt → Prop
  | fault {fault fault' : Fault} : fault.Alike fault' → Alike (.fault fault) (.fault fault')
  | tooDeep : Alike .tooDeep .tooDeep

theorem Halt.alike_refl (halt : Halt) : halt.Alike halt := by
  cases halt with
  | fault fault => exact .fault (.same fault)
  | tooDeep => exact .tooDeep

/-- Of the fault only the kind is written down. -/
theorem Event.toJson_eq_of_alike (engine location : String) (elapsed : Duration)
    {fault fault' : Fault} (h : fault.Alike fault') :
    (Event.renderFailed engine location elapsed fault).toJson =
      (Event.renderFailed engine location elapsed fault').toJson := by
  have hkind : (Event.renderFailed engine location elapsed fault).faultKind? =
      (Event.renderFailed engine location elapsed fault').faultKind? :=
    congrArg some (Fault.kind_eq_of_alike h)
  rw [Event.toJson, Event.toJson, hkind]
  rfl

namespace Session

variable {α β : Type} {s s' : Session}

/-- Sessions that differ at most in the order of the entries of their registries. -/
structure Alike (s s' : Session) : Prop where
  registries : ∀ id, (s.registry id).Alike (s'.registry id)
  log : s.log.map Event.toJson = s'.log.map Event.toJson
  rest : ∃ engines log, s' = { s with engines := engines, log := log }

/-- An event that reads the same is written down in both. -/
theorem Alike.record (h : s.Alike s') {e e' : Event} (he : e.toJson = e'.toJson) :
    Alike { s with log := s.log ++ [e] } { s' with log := s'.log ++ [e'] } where
  registries := h.registries
  log := by simp [h.log, he]
  rest := by
    obtain ⟨engines, log, rfl⟩ := h.rest
    exact ⟨engines, log ++ [e'], rfl⟩

/-- A registry is replaced in both. -/
theorem Alike.put (h : s.Alike s') (id : Nat) {e e' : Engines} (he : e.Alike e') :
    Alike { s with engines := s.engines.put id e } { s' with engines := s'.engines.put id e' } where
  registries other := by
    have hput : registry { s' with engines := s'.engines.put id e' } other =
        if other = id then e' else s'.registry other := registry_put id e' rfl other
    rw [registry_put id e rfl, hput]
    split
    · exact he
    · exact h.registries other
  log := h.log
  rest := by
    obtain ⟨engines, log, rfl⟩ := h.rest
    exact ⟨engines.put id e', log, rfl⟩

/-- The program does the same in sessions that are alike. -/
abbrev Respects (p : Run α) : Prop := Agree Alike Halt.Alike Eq p p

/-! ### Programs that look at neither registries nor the log -/

/-- Registries and the log make no difference to the program, and it leaves them alone. -/
def Blind (p : Run α) : Prop :=
  ∀ (s : Session) engines log, p.run { s with engines := engines, log := log } =
    ((p.run s).1, { (p.run s).2 with engines := engines, log := log })

theorem Blind.respects {p : Run α} (h : Blind p) : Respects p := by
  intro s s' hs
  obtain ⟨engines, log, rfl⟩ := hs.rest
  have hown : (p.run s).2 = { (p.run s).2 with engines := s.engines, log := s.log } :=
    congrArg Prod.snd (h s s.engines s.log)
  rw [h s engines log]
  refine ⟨Outcome.alike_self Halt.alike_refl _, ?_⟩
  rw [hown]
  exact ⟨hs.registries, hs.log, engines, log, rfl⟩

/-- Most programs only look. -/
theorem Views.blind {p : Run α} (h : Views p) : Blind p := by
  intro s engines log
  rw [h s engines log, ← h.looks s]

theorem Views.respects {p : Run α} (h : Views p) : Respects p := h.blind.respects

namespace Blind

theorem pure (a : α) : Blind (Pure.pure a : Run α) := fun _ _ _ => rfl

theorem raise (fault : Fault) : Blind (raise fault : Run α) := fun _ _ _ => rfl

theorem ofExcept (outcome : Except Fault α) : Blind (ofExcept outcome) := by
  cases outcome with
  | ok a => exact pure a
  | error fault => exact raise fault

theorem bind {p : Run α} {f : α → Run β} (hp : Blind p) (hf : ∀ a, Blind (f a)) :
    Blind (p >>= f) := by
  intro s engines log
  have hs := hp s engines log
  rcases hrun : p.run s with ⟨halt | a, after⟩
  · rw [hrun] at hs
    rw [run_bind_error hs, run_bind_error hrun]
  · rw [hrun] at hs
    rw [run_bind_ok hs, run_bind_ok hrun]
    exact hf a after engines log

/-- A program may look at everything else. -/
theorem looking {f : Session → Run α}
    (hf : ∀ (s : Session) engines log, f { s with engines := engines, log := log } = f s)
    (hblind : ∀ s, Blind (f s)) : Blind (get >>= f) := by
  intro s engines log
  rw [run_bind_ok (run_get _), run_bind_ok (run_get s), hf]
  exact hblind s s engines log

end Blind

/-- What overlooks the clock as well is blind. -/
theorem Oblivious.blind {p : Run α} (h : Oblivious p) : Blind p := by
  intro s engines log
  have hclock : (p.run s).2.clock = s.clock :=
    congrArg (fun r => r.2.clock) (h s s.engines s.clock s.log)
  refine (h s engines s.clock log).trans ?_
  rw [← hclock]

theorem Oblivious.respects {p : Run α} (h : Oblivious p) : Respects p := h.blind.respects

theorem blind_freshId : Blind freshId := oblivious_freshId.blind

theorem blind_readClock : Blind readClock := fun _ _ _ => rfl

theorem blind_bindHandle (name : String) (o : Object) : Blind (bindHandle name o) :=
  fun _ _ _ => rfl

theorem blind_bindOptional (o : Object) (name : Option String) : Blind (bindOptional o name) := by
  cases name with
  | none => exact .pure ()
  | some name => exact blind_bindHandle name o

theorem blind_performModules (step : ModuleStep) : Blind (performModules step) := by
  cases step <;> exact fun _ _ _ => rfl

theorem blind_made (value : Json) : Blind (made value) := blind_freshId.bind fun _ => .pure _

theorem blind_newResult (value : Object) (fault : Option Fault) : Blind (newResult value fault) :=
  blind_freshId.bind fun _ => .pure _

theorem blind_newStore (title : String) : Blind (newStore title) :=
  blind_freshId.bind fun _ => (oblivious_writeStore _ _).blind.bind fun _ => .pure _

theorem blind_newLoader (config : Option Json) : Blind (newLoader config) := by
  have hnew : ∀ config : Config, Blind (do return .loader (← freshId) ⟨config⟩ : Run Object) := by
    intro config
    exact blind_freshId.bind fun id => .pure _
  rcases config with _ | value
  · exact hnew _
  · simp only [newLoader]
    split
    · exact hnew _
    · exact Blind.bind (.raise _) hnew

theorem blind_evalPayload (value : PayloadValue) : Blind (evalPayload value) :=
  (oblivious_evalPayload value).blind

/-! ### Programs that make no difference between sessions that are alike -/

theorem Respects.bind {γ δ : Type} {W : γ → δ → Prop} {p : Run α} {f : α → Run γ} {g : α → Run δ}
    (hp : Respects p) (hfg : ∀ a, Agree Alike Halt.Alike W (f a) (g a)) :
    Agree Alike Halt.Alike W (p >>= f) (p >>= g) := Agree.bind_eq hp hfg

/-- What is read off registries is the same up to the order of their entries. -/
theorem agree_ofExcept {outcome outcome' : Except Fault α}
    (h : Outcome.Alike Fault.Alike Eq outcome outcome') :
    Agree Alike Halt.Alike Eq (ofExcept outcome) (ofExcept outcome') :=
  Agree.ofExcept (fun _ _ => .fault) h

theorem agree_record {e e' : Event} (h : e.toJson = e'.toJson) :
    Agree Alike Halt.Alike Eq (record e) (record e') :=
  fun _ _ hs => ⟨.ok rfl, hs.record h⟩

theorem respects_createTemplate (engines : Nat) (engine : String) (file : Option (Traced File))
    (data : Payload) (libraries : Option LibrariesRef) (loader : Option Loader) :
    Respects (createTemplate engines engine file data libraries loader) := by
  refine Agree.get.bind fun s s' hs => ?_
  have hresolve := agree_ofExcept ((hs.registries engines).resolve engine)
  exact Agree.bind_eq hresolve fun cls =>
    (oblivious_newTemplate cls file data libraries loader).respects

/-- Renders start and end at the same times. -/
theorem measures_alike : Measures Alike Halt.Alike Eq where
  readClock := blind_readClock.respects
  locate file := (views_locate file).respects
  rendered _ _ _ _ _ _ hstart hstop := by
    cases hstart
    cases hstop
    exact agree_record rfl
  failed engine location _ _ _ _ _ _ hstart hstop hfault := by
    cases hstart
    cases hstop
    cases hfault with
    | fault hfault => exact agree_record (Event.toJson_eq_of_alike engine location _ hfault)
  interrupted hfault := by
    cases hfault with
    | fault hfault => exact Fault.isInterruption_eq_of_alike hfault
  tooDeep := ⟨nofun, nofun⟩

/-- The programs do the same in sessions that are alike. -/
abbrev AlikeRuns {α : Type} (p q : Run α) : Prop := Agree Alike Halt.Alike Eq p q

instance : Congruence AlikeRuns where
  bind := .bind_eq
  oblivious h := h.respects
  recorded _ := agree_record rfl
  created := respects_createTemplate
  measuring engine file _ _ h := measures_alike.measured engine file h

theorem respects_require (l : Loader) (name : String) (file : Option File) :
    Respects (require l name file) := congruent_require AlikeRuns l name file

theorem respects_tryRequire (l : Loader) (name : String) (file : Option File) :
    Respects (tryRequire l name file) := congruent_tryRequire AlikeRuns l name file

theorem respects_setLibrary (ref : LibrariesRef) (name : String) (library : Object) :
    Respects (setLibrary ref name library) := congruent_setLibrary AlikeRuns ref name library

theorem respects_loadLibrary (l : Loader) (name : String) (file : Option File)
    (ref : LibrariesRef) : Respects (loadLibrary l name file ref) :=
  congruent_loadLibrary AlikeRuns l name file ref

/-- **No render can tell sessions apart that are alike.** -/
theorem respects_render (depth engines : Nat) (engine : String) (file : Option (Traced File))
    (data : Payload) (context : Json) (bindings : Option Bindings) :
    Respects (render depth engines engine file data context bindings) :=
  congruent_render AlikeRuns depth engines engine file data context bindings

/-! ### Steps -/

theorem respects_performLibraries (on : String) (step : LibrariesStep) :
    Respects (performLibraries on step) := by
  cases step with
  | get name default =>
    refine Blind.respects ((views_librariesAt on).blind.bind fun ref => ?_)
    refine (views_evalLibrary default).blind.bind fun default => ?_
    exact (views_readStore ref).blind.bind fun _ => .pure _
  | has name =>
    refine Blind.respects ((views_librariesAt on).blind.bind fun ref => ?_)
    exact (views_readStore ref).blind.bind fun _ => .pure _
  | set name value =>
    refine (views_librariesAt on).respects.bind fun ref => ?_
    refine (views_evalLibrary value).respects.bind fun library => ?_
    exact (respects_setLibrary ref name library).bind fun _ => (Blind.pure _).respects
  | assign name value =>
    refine (views_evalLibrary value).respects.bind fun library => ?_
    refine (views_librariesAt on).respects.bind fun ref => ?_
    exact (respects_setLibrary ref name library).bind fun _ => (Blind.pure _).respects
  | names =>
    refine Blind.respects ((views_librariesAt on).blind.bind fun ref => ?_)
    exact (views_readStore ref).blind.bind fun _ => blind_made _
  | size =>
    refine Blind.respects ((views_librariesAt on).blind.bind fun ref => ?_)
    exact (views_readStore ref).blind.bind fun _ => blind_made _
  | isNonempty =>
    refine Blind.respects ((views_librariesAt on).blind.bind fun ref => ?_)
    exact (views_readStore ref).blind.bind fun _ => .pure _
  | clear =>
    refine Blind.respects ((views_librariesAt on).blind.bind fun ref => ?_)
    exact (oblivious_writeStore ref _).blind.bind fun _ => .pure _
  | inspect =>
    refine Blind.respects ((views_librariesAt on).blind.bind fun ref => ?_)
    exact .looking (fun _ _ _ => rfl) fun _ => blind_made _
  | ensure name factory =>
    refine (views_librariesAt on).respects.bind fun ref => ?_
    refine (views_readStore ref).respects.bind fun content => ?_
    have hfill : Respects (ensureLibrary ref name (runFactory ref factory)) :=
      congruent_ensureLibrary AlikeRuns ref name (congruent_runFactory AlikeRuns ref factory)
    refine hfill.bind fun _ => ?_
    exact (blind_freshId.bind fun _ => .pure _).respects

theorem respects_performLoader (on : String) (step : LoaderStep) :
    Respects (performLoader on step) := by
  cases step with
  | require name file =>
    refine (views_loaderAt on).respects.bind fun l => ?_
    exact (respects_require l name file).bind fun _ => (Blind.pure _).respects
  | tryRequire name file =>
    refine (views_loaderAt on).respects.bind fun l => ?_
    exact (respects_tryRequire l name file).bind fun _ => (blind_newResult _ _).respects
  | loadLibrary name file libraries =>
    refine (views_loaderAt on).respects.bind fun l => ?_
    refine (views_librariesAt libraries).respects.bind fun ref => ?_
    exact respects_loadLibrary l name file ref

theorem respects_performTemplate (on : String) (step : TemplateStep) :
    Respects (performTemplate on step) := by
  cases step with
  | setData data =>
    refine Blind.respects ((blind_evalPayload data).bind fun data => ?_)
    refine (views_templateAt on).blind.bind fun t => ?_
    exact (oblivious_setPayload t data).blind.bind fun _ => .pure _
  | file => exact ((views_templateAt on).blind.bind fun _ => .pure _).respects
  | assignFile => exact ((views_templateAt on).blind.bind fun _ => .raise _).respects
  | data =>
    refine Blind.respects ((views_templateAt on).blind.bind fun t => ?_)
    exact (views_payloadOf t).blind.bind fun _ => .pure _
  | evaluate context bindings =>
    refine (views_templateAt on).respects.bind fun t => ?_
    have heval : Respects (evaluate depthLimit t context bindings) :=
      congruent_evaluate AlikeRuns depthLimit t context bindings
    exact heval.bind fun _ => (Blind.pure _).respects
  | require name =>
    refine (views_templateAt on).respects.bind fun t => ?_
    exact (respects_require _ _ _).bind fun _ => (Blind.pure _).respects
  | tryRequire name =>
    refine (views_templateAt on).respects.bind fun t => ?_
    exact (respects_tryRequire _ _ _).bind fun _ => (blind_newResult _ _).respects
  | loadLibrary name =>
    exact (views_templateAt on).respects.bind fun t => respects_loadLibrary _ _ _ _
  | inspect => exact ((views_templateAt on).blind.bind fun t => blind_made _).respects
  | mime => exact ((views_templateAt on).blind.bind fun _ => .pure _).respects
  | librariesAre libraries =>
    refine Blind.respects ((views_templateAt on).blind.bind fun t => ?_)
    exact (views_handle libraries).blind.bind fun _ => .pure _
  | isEvaluator =>
    refine Blind.respects ((views_templateAt on).blind.bind fun t => ?_)
    exact (views_payloadOf t).blind.bind fun _ => .pure _

theorem respects_register (id : Nat) (name : String) (candidate : Candidate)
    (extensions : List String) : Respects (register id name candidate extensions) := by
  intro s s' hs
  rw [run_register, run_register, (hs.registries id).accept name candidate]
  rcases (s'.registry id).accept name candidate with why | c
  · exact ⟨.error (Halt.alike_refl _), hs⟩
  · refine ⟨.ok rfl, ?_⟩
    exact (hs.put id ((hs.registries id).enter name c extensions)).record rfl

/-- What is asked of a registry but for the reading of who handles what. -/
theorem respects_performEngines (on : String) {step : EnginesStep} (h : step ≠ .extensions) :
    Respects (performEngines on step) := by
  cases step with
  | register name offer extensions =>
    refine (views_enginesAt on).respects.bind fun id => ?_
    refine (views_evalOffer offer).respects.bind fun candidate => ?_
    exact (respects_register id name candidate extensions).bind fun _ => (Blind.pure _).respects
  | add name offer extensions =>
    refine (views_enginesAt on).respects.bind fun id => ?_
    refine (views_evalOffer offer).respects.bind fun candidate => ?_
    exact (respects_register id name candidate extensions).bind fun _ => (Blind.pure _).respects
  | unregister name =>
    refine (views_enginesAt on).respects.bind fun id => ?_
    intro s s' hs
    exact ⟨.ok rfl, hs.put id ((hs.registries id).unregister name)⟩
  | get name =>
    refine (views_enginesAt on).respects.bind fun id => ?_
    refine Agree.get.bind fun s s' hs => Agree.pure ?_
    rw [(hs.registries id).classes name]
  | has name =>
    refine (views_enginesAt on).respects.bind fun id => ?_
    refine Agree.get.bind fun s s' hs => Agree.pure ?_
    rw [(hs.registries id).has name]
  | names =>
    refine (views_enginesAt on).respects.bind fun id => ?_
    refine Agree.get.bind fun s s' hs => ?_
    rw [(hs.registries id).names]
    exact (blind_made _).respects
  | resolve name =>
    refine (views_enginesAt on).respects.bind fun id => ?_
    refine Agree.get.bind fun s s' hs => ?_
    have hresolve := agree_ofExcept ((hs.registries id).resolve name)
    exact Agree.bind_eq hresolve fun _ => (Blind.pure _).respects
  | forFile file =>
    refine (views_enginesAt on).respects.bind fun id => ?_
    refine (views_locate file).respects.bind fun location => ?_
    refine Agree.get.bind fun s s' hs => ?_
    have hfor := agree_ofExcept ((hs.registries id).forLocation location)
    exact Agree.bind_eq hfor fun _ => (Blind.pure _).respects
  | create name file data libraries loader =>
    refine (views_enginesAt on).respects.bind fun id => ?_
    refine (blind_evalPayload data).respects.bind fun data => ?_
    refine (views_optionalLibraries libraries).respects.bind fun libraries => ?_
    refine (views_optionalLoader loader).respects.bind fun loader => ?_
    exact (respects_createTemplate _ _ _ _ _ _).bind fun _ => (Blind.pure _).respects
  | render name file data context bindings =>
    refine (views_enginesAt on).respects.bind fun id => ?_
    refine (blind_evalPayload data).respects.bind fun data => ?_
    exact (respects_render _ _ _ _ _ _ _).bind fun _ => (Blind.pure _).respects
  | extensions => exact absurd rfl h

/-- **No step can tell sessions apart that are alike**, but for the reading of who handles what. -/
theorem respects_performStep {step : Step} (h : ∀ on, step ≠ .engines on .extensions) :
    Respects (performStep step) := by
  cases step with
  | modules step => exact (blind_performModules step).respects
  | newEngines =>
    refine blind_freshId.respects.bind fun id => ?_
    intro s s' hs
    exact ⟨.ok rfl, hs.put id (Engines.alike_refl .empty)⟩
  | engines on step =>
    refine respects_performEngines on ?_
    rintro rfl
    exact h on rfl
  | newLibraries title => exact ((blind_newStore title).bind fun _ => .pure _).respects
  | libraries on step => exact respects_performLibraries on step
  | newLoader config => exact (blind_newLoader config).respects
  | loader on step => exact respects_performLoader on step
  | newResult value fault =>
    refine Blind.respects ((views_evalLibrary value).blind.bind fun value => ?_)
    exact Blind.bind (.ofExcept fault) fun fault => blind_newResult value fault
  | result on step => exact (views_performResult on step).respects
  | newTemplate cls file data libraries loader =>
    refine Blind.respects ((views_classOf cls).blind.bind fun cls => ?_)
    refine (blind_evalPayload data).bind fun data => ?_
    refine (views_optionalLibraries libraries).blind.bind fun libraries => ?_
    refine (views_optionalLoader loader).blind.bind fun loader => ?_
    exact (oblivious_newTemplate _ _ _ _ _).blind.bind fun _ => .pure _
  | template on step => exact respects_performTemplate on step
  | cls id step => exact (views_performClass id step).respects
  | same first second => exact (views_compared first second).respects

end Session

end AssetPipeline
