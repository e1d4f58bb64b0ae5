/-
AssetPipeline/Proofs/Session/Location.lean

Which difference it makes by which object a file is given.

A file has a location, and nearly everything that is said about a file gives that.  The file itself,
as it stands in running text, is shown in two places only: where a name is refused that means
nothing, and where it is written down that a dependency has been loaded (`Fault.Refiled`,
`Event.Refiled`).  So two files with the same location are not the same to a caller unless they are
also shown alike, as a text and a path are; a path-like object is not.

Two runs are compared, with one file in the place of the other.  Templates that were made for them
differ in their files, and bodies may show these; what a body puts for its file has to be the same
in both runs for the payloads to be the same.

Main statements: `refiled_evaluateIn` and `refiled_renderIn`, and `only_location_matters`.
-/
import AssetPipeline.Proofs.Loader.Refusal
import AssetPipeline.Proofs.Session.Alike
import AssetPipeline.Proofs.Session.Manner
import AssetPipeline.Proofs.Session.StoreAddress
import Mathlib.Data.List.Forall2

namespace AssetPipeline

variable {file file' : File}

/-! ### What shows the file -/

/-- Faults that differ at most in which of two files they show. -/
inductive Fault.Refiled (file file' : File) : Fault → Fault → Prop
  | same (fault : Fault) : Refiled file file' fault fault
  | emptyDependency :
    Refiled file file' (.emptyDependency (some file)) (.emptyDependency (some file'))
  | unanchoredDependency (name : String) :
    Refiled file file' (.unanchoredDependency name (some file))
      (.unanchoredDependency name (some file'))

/-- Events that differ at most in which of two files they show. -/
inductive Event.Refiled (file file' : File) : Event → Event → Prop
  | same (e : Event) : Refiled file file' e e
  | dependencyLoaded (name : String) :
    Refiled file file' (.dependencyLoaded name (some file)) (.dependencyLoaded name (some file'))
  | renderFailed (engine location : String) (elapsed : Duration) {fault fault' : Fault} :
    Fault.Refiled file file' fault fault' →
      Refiled file file' (.renderFailed engine location elapsed fault)
        (.renderFailed engine location elapsed fault')

/-- Reasons to stop that differ at most in which of two files they show. -/
inductive Halt.Refiled (file file' : File) : Halt → Halt → Prop
  | fault {fault fault' : Fault} :
    Fault.Refiled file file' fault fault' → Refiled file file' (.fault fault) (.fault fault')
  | tooDeep : Refiled file file' .tooDeep .tooDeep

/-- Whichever file a fault shows, it is of the same kinds and tells callers the same in fields. -/
theorem Fault.Refiled.contract {fault fault' : Fault} (h : Fault.Refiled file file' fault fault') :
    fault.kind = fault'.kind ∧ fault.generalKinds = fault'.generalKinds ∧
      fault.contract? = fault'.contract? ∧ fault.causeFields = fault'.causeFields := by
  cases h <;> exact ⟨rfl, rfl, rfl, rfl⟩

theorem Fault.Refiled.isInterruption {fault fault' : Fault}
    (h : Fault.Refiled file file' fault fault') :
    fault.isInterruption = fault'.isInterruption := by
  cases h <;> rfl

/-- The texts are the same, or have the same words around the one file and the other, as files are
shown in running text. -/
def SameWords (file file' : File) (text text' : String) : Prop :=
  text = text' ∨ ∃ words words', text = words ++ file.display ++ words' ∧
    text' = words ++ file'.display ++ words'

/-- Around files that are shown alike, the same words are the same text. -/
theorem SameWords.eq {text text' : String} (h : SameWords file file' text text')
    (hshown : file.display = file'.display) : text = text' := by
  rcases h with h | ⟨words, words', h, h'⟩
  · exact h
  · rw [h, h', hshown]

theorem Fault.Refiled.message {fault fault' : Fault} (h : Fault.Refiled file file' fault fault') :
    SameWords file file' fault.message fault'.message := by
  cases h with
  | same => exact .inl rfl
  | emptyDependency =>
    exact .inr ⟨"Empty dependency name required for file '", "'", rfl, rfl⟩
  | unanchoredDependency name =>
    exact .inr ⟨"Relative dependency name " ++ Text.quoted name ++ " required for file '",
      "' needs LoaderConfig.package to be set", rfl, rfl⟩

/-- Where the files are shown alike, so is the fault. -/
theorem Fault.Refiled.report {fault fault' : Fault} (h : Fault.Refiled file file' fault fault')
    (hshown : file.display = file'.display) : fault.report = fault'.report := by
  have hmessage := h.message.eq hshown
  let refused (message : String) : Json :=
    .object [("error", .str "ValueError"), ("message", .str message)]
  cases h with
  | same => rfl
  | emptyDependency | unanchoredDependency => exact congrArg refused hmessage

/-- What is written down is as serious for both files, from the same part of the library and about
faults of the same kind, in the same words. -/
theorem Event.Refiled.reads {e e' : Event} (h : Event.Refiled file file' e e') :
    e.severity = e'.severity ∧ e.channel = e'.channel ∧ e.faultKind? = e'.faultKind? ∧
      SameWords file file' e.message e'.message := by
  cases h with
  | same => exact ⟨rfl, rfl, rfl, .inl rfl⟩
  | dependencyLoaded name =>
    refine ⟨rfl, rfl, rfl, .inr ⟨"Loaded dependency " ++ Text.quoted name ++ " for ", "", ?_, ?_⟩⟩
    · rw [String.append_empty]
      rfl
    · rw [String.append_empty]
      rfl
  | renderFailed engine location elapsed hfault =>
    exact ⟨rfl, rfl, congrArg some hfault.contract.1, .inl rfl⟩

theorem Event.Refiled.toJson {e e' : Event} (h : Event.Refiled file file' e e')
    (hshown : file.display = file'.display) : e.toJson = e'.toJson := by
  obtain ⟨hseverity, hchannel, hkind, hmessage⟩ := h.reads
  rw [Event.toJson, Event.toJson, hseverity, hchannel, hkind, hmessage.eq hshown]

/-! ### Importing -/

namespace Loader

variable {name : String}

/-- **A dependency is imported alike for files with the same location.** -/
theorem refiled_acquire (h : file.location = file'.location) (l : Loader) (installed : Installed)
    (name : String) (c : ModuleCache) :
    Outcome.Alike (Fault.Refiled file file') Eq (l.acquire installed name (some file) c).1
        (l.acquire installed name (some file') c).1 ∧
      (l.acquire installed name (some file) c).2 = (l.acquire installed name (some file') c).2 := by
  rcases habs : absoluteName l.config.anchor name with fault | absolute
  · -- a name without a meaning is refused, in some cases with the file
    obtain ⟨refusal, hrefused⟩ := (@exists_refused_iff l name (some file)).2 ⟨fault, habs⟩
    rw [acquire_of_refused hrefused]
    cases hrefused with
    | empty =>
      rw [acquire_of_refused .empty]
      exact ⟨.error .emptyDependency, rfl⟩
    | unanchored hrel hanchor =>
      rw [acquire_of_refused (.unanchored hrel hanchor)]
      exact ⟨.error (.unanchoredDependency name), rfl⟩
    | hollow hrel hanchor =>
      rw [acquire_of_refused (.hollow hrel hanchor)]
      exact ⟨.error (.same _), rfl⟩
    | beyond hrel hanchor hne hbeyond =>
      rw [acquire_of_refused (.beyond hrel hanchor hne hbeyond)]
      exact ⟨.error (.same _), rfl⟩
  · -- a missing dependency is reported with the location
    have hreport : l.report name (some file) = l.report name (some file') := by
      funext why
      simp only [report, Option.map_some, h]
    have hjudge : l.judge name (some file) absolute = l.judge name (some file') absolute := by
      funext outcome
      unfold judge
      rw [hreport]
    rw [acquire_of_absolute habs, acquire_of_absolute habs, hjudge]
    exact ⟨Outcome.alike_self .same _, rfl⟩

variable {outcome outcome' : Except Fault Module}

theorem refiled_requireEvents (name : String)
    (h : Outcome.Alike (Fault.Refiled file file') Eq outcome outcome') :
    List.Forall₂ (Event.Refiled file file') (requireEvents name (some file) outcome)
      (requireEvents name (some file') outcome') := by
  cases h with
  | ok hmodule => exact .cons (.dependencyLoaded name) .nil
  | @error fault _ hfault =>
    cases hfault with
    | same =>
      cases fault with
      | dependencyMissing what => exact .cons (.same _) .nil
      | _ => exact .nil
    | emptyDependency | unanchoredDependency => exact .nil

theorem refiled_tryEvents (h : Outcome.Alike (Fault.Refiled file file') Eq outcome outcome') :
    tryEvents outcome = tryEvents outcome' := by
  cases h with
  | ok hmodule => rfl
  | error hfault => cases hfault <;> rfl

theorem refiled_tried (h : Outcome.Alike (Fault.Refiled file file') Eq outcome outcome') :
    Outcome.Alike (Fault.Refiled file file') Eq (tried outcome) (tried outcome') := by
  cases h with
  | ok hmodule => exact .ok (congrArg _ hmodule)
  | error hfault =>
    cases hfault with
    | same => exact Outcome.alike_self .same _
    | emptyDependency => exact .error .emptyDependency
    | unanchoredDependency name => exact .error (.unanchoredDependency name)

end Loader

/-- The template, made for another file. -/
def Template.withFile (t : Template) (file : Traced File) : Template := { t with file := some file }

/-- What an evaluation is given, with its template made for another file. -/
def Call.withFile (call : Call) (file : Traced File) : Call :=
  { call with template := call.template.withFile file }

namespace Session

variable {α β : Type} {before : List Event} {s s' : Session}

/-! ### Two runs -/

/-- Sessions that differ at most in which of two files is shown by what has been written down since
the log was `before`. -/
structure Refiled (file file' : File) (before : List Event) (s s' : Session) : Prop where
  log : ∃ written written', s.log = before ++ written ∧ s'.log = before ++ written' ∧
    List.Forall₂ (Event.Refiled file file') written written'
  rest : ∃ log, s' = { s with log := log }

/-- From such sessions, the programs come to such sessions, with values that are related, or stop
for reasons that show the one file and the other. -/
abbrev RefiledRuns (file file' : File) (before : List Event) (V : α → β → Prop) (p : Run α)
    (q : Run β) : Prop :=
  Agree (Refiled file file' before) (Halt.Refiled file file') V p q

theorem refiled_self (s : Session) : Refiled file file' s.log s s where
  log := ⟨[], [], by simp, by simp, .nil⟩
  rest := ⟨s.log, rfl⟩

namespace RefiledRuns

theorem blind {p : Run α} (h : Blind p) : RefiledRuns file file' before Eq p p := by
  intro s s' hs
  obtain ⟨log, rfl⟩ := hs.rest
  have hown : (p.run s).2 = { (p.run s).2 with engines := s.engines, log := s.log } :=
    congrArg Prod.snd (h s s.engines s.log)
  rw [h s s.engines log]
  refine ⟨Outcome.alike_self ?_ _, ?_⟩
  · rintro (fault | _)
    · exact .fault (.same fault)
    · exact .tooDeep
  · rw [hown]
    exact ⟨hs.log, log, rfl⟩

theorem oblivious {p : Run α} (h : Oblivious p) : RefiledRuns file file' before Eq p p :=
  blind h.blind

theorem ofExcept {outcome outcome' : Except Fault α}
    (h : Outcome.Alike (Fault.Refiled file file') Eq outcome outcome') :
    RefiledRuns file file' before Eq (ofExcept outcome) (ofExcept outcome') :=
  Agree.ofExcept (fun _ _ => .fault) h

theorem raise {fault fault' : Fault} (h : Fault.Refiled file file' fault fault') :
    RefiledRuns file file' before (Eq : α → α → Prop) (raise fault) (raise fault') :=
  Agree.throw (.fault h)

theorem record {e e' : Event} (h : Event.Refiled file file' e e') :
    RefiledRuns file file' before Eq (record e) (record e') := by
  intro s s' hs
  obtain ⟨written, written', hlog, hlog', hevents⟩ := hs.log
  obtain ⟨log, rfl⟩ := hs.rest
  refine ⟨.ok rfl, ⟨written ++ [e], written' ++ [e'], ?_, ?_, ?_⟩, log ++ [e'], rfl⟩
  · exact (congrArg (· ++ [e]) hlog).trans (List.append_assoc ..)
  · exact (congrArg (· ++ [e']) hlog').trans (List.append_assoc ..)
  · exact List.rel_append hevents (.cons h .nil)

theorem records {events events' : List Event}
    (h : List.Forall₂ (Event.Refiled file file') events events') :
    RefiledRuns file file' before Eq (events.forM Session.record)
      (events'.forM Session.record) := by
  induction h with
  | nil => exact blind (.pure ())
  | cons he _ ih => exact (record he).bind_eq fun _ => ih

/-- Renders start and end at the same times. -/
theorem measures : Measures (Refiled file file' before) (Halt.Refiled file file') Eq where
  readClock := blind blind_readClock
  locate here := blind (views_locate here).blind
  rendered _ _ _ _ _ _ hstart hstop := by
    cases hstart
    cases hstop
    exact record (.same _)
  failed _ _ _ _ _ _ _ _ hstart hstop hfault := by
    cases hstart
    cases hstop
    cases hfault with
    | fault hfault => exact record (.renderFailed _ _ _ hfault)
  interrupted hfault := by
    cases hfault with
    | fault hfault => exact hfault.isInterruption
  tooDeep := ⟨nofun, nofun⟩

theorem createTemplate (engines : Nat) (engine : String) (here : Option (Traced File))
    (data : Payload) (libraries : Option LibrariesRef) (loader : Option Loader) :
    RefiledRuns file file' before Eq (createTemplate engines engine here data libraries loader)
      (createTemplate engines engine here data libraries loader) := by
  refine Agree.bind Agree.get fun s s' hs => ?_
  obtain ⟨log, rfl⟩ := hs.rest
  exact (blind (.ofExcept _)).bind_eq fun cls =>
    oblivious (oblivious_newTemplate cls here data libraries loader)

end RefiledRuns

instance : Congruence (RefiledRuns file file' before Eq) where
  bind := .bind_eq
  oblivious := .oblivious
  recorded e := .record (.same e)
  created := .createTemplate
  measuring engine here _ _ h := RefiledRuns.measures.measured engine here h

/-! ### Dependencies -/

section
variable (h : file.location = file'.location)
include h

theorem refiled_acquire (l : Loader) (name : String) :
    RefiledRuns file file' before (Outcome.Alike (Fault.Refiled file file') Eq)
      (acquire l name (some file)) (acquire l name (some file')) := by
  intro s s' hs
  obtain ⟨log, rfl⟩ := hs.rest
  obtain ⟨hout, hcache⟩ := Loader.refiled_acquire h l s.installed name s.cache
  rw [run_acquire, run_acquire, hcache]
  exact ⟨.ok hout, hs.log, log, rfl⟩

/-- **A dependency is required alike for files with the same location.** -/
theorem refiled_require (l : Loader) (name : String) :
    RefiledRuns file file' before Eq (require l name (some file)) (require l name (some file')) :=
  Agree.bind (refiled_acquire h l name) fun _ _ hout =>
    (RefiledRuns.records (Loader.refiled_requireEvents name hout)).bind_eq fun _ =>
      RefiledRuns.ofExcept hout

/-- **So is it tried.** -/
theorem refiled_tryRequire (l : Loader) (name : String) :
    RefiledRuns file file' before Eq (tryRequire l name (some file))
      (tryRequire l name (some file')) := by
  refine Agree.bind (refiled_acquire h l name) fun out out' hout => ?_
  rw [Loader.refiled_tryEvents hout]
  exact (congruent_records (RefiledRuns file file' before Eq) _).bind_eq fun _ =>
    RefiledRuns.ofExcept (Loader.refiled_tried hout)

/-- **So is it loaded into a store.** -/
theorem refiled_loadLibrary (l : Loader) (name : String) (ref : LibrariesRef) :
    RefiledRuns file file' before Eq (loadLibrary l name (some file) ref)
      (loadLibrary l name (some file') ref) :=
  congruent_ensureLibrary (RefiledRuns file file' before Eq) ref name
    ((refiled_require h l name).bind_eq fun _ => RefiledRuns.blind (.pure _))

end

/-! ### Evaluating and rendering -/

/-- The manner of engines, with what a body puts for its file left open. -/
def Manner.showing (shown : Option File → Json) : Manner := { Manner.own with shown := shown }

/-- The manner of engines, but that a body puts this file. -/
def Manner.putting (file : File) : Manner := .showing fun _ => file.toJson

section
variable {f f' : Traced File} {shown shown' : Option File → Json} {call : Call}
  {base base' : Run Payload} {nested nested' : Nat → String → Payload → Run Payload}

/-- The same template is made, for the one file and for the other. -/
theorem refiled_createTemplate (engines : Nat) (engine : String) (data : Payload)
    (libraries : Option LibrariesRef) (loader : Option Loader) :
    RefiledRuns f.value f'.value before (fun t t' => t.file = some f ∧ t' = t.withFile f')
      (createTemplate engines engine (some f) data libraries loader)
      (createTemplate engines engine (some f') data libraries loader) := by
  refine Agree.bind Agree.get fun s s' hs => ?_
  obtain ⟨log, rfl⟩ := hs.rest
  refine (RefiledRuns.blind (.ofExcept _)).bind_eq fun cls => ?_
  intro s s' hs
  obtain ⟨log, rfl⟩ := hs.rest
  unfold newTemplate
  cases cls.isEngine with
  | false => exact ⟨.error (.fault (.same _)), hs.log, log, rfl⟩
  | true => exact ⟨.ok ⟨rfl, rfl⟩, hs.log, log, rfl⟩

/-- Of a file, a render shows the location. -/
theorem measured_congr {here here' : Option File} (h : locate here = locate here')
    (engine : String) (p : Run Payload) : measured engine here p = measured engine here' p := by
  refine bind_congr fun start => bind_congr fun out => ?_
  rcases out with (fault | _) | result <;> simp only [finishRender, h]

variable (h : f.value.location = f'.value.location)
  (hshown : shown (some f.value) = shown' (some f'.value))
include h hshown

theorem refiled_doActionIn (hfile : call.template.file = some f)
    (hbase : RefiledRuns f.value f'.value before Eq base base')
    (hnested : ∀ engines engine data, RefiledRuns f.value f'.value before Eq
      (nested engines engine data) (nested' engines engine data)) (action : Action) :
    RefiledRuns f.value f'.value before Eq (doActionIn (.showing shown) call base nested action)
      (doActionIn (.showing shown') (call.withFile f') base' nested' action) := by
  have hvalue : call.template.fileValue = some f.value := by rw [Template.fileValue, hfile]; rfl
  cases action with
  | putFile =>
    have hsame : (Manner.showing shown).shown call.template.fileValue =
        (Manner.showing shown').shown (call.withFile f').template.fileValue := by
      rw [hvalue]
      exact hshown
    rw [doActionIn, doActionIn, hsame]
    exact .oblivious (oblivious_put call.template _)
  | require name =>
    rw [doActionIn, doAction, hvalue]
    · exact (refiled_require h call.template.loader name).bind_eq fun m =>
        RefiledRuns.oblivious (oblivious_put call.template _)
    · simp
  | tryRequire name =>
    rw [doActionIn, doAction, hvalue]
    · exact (refiled_tryRequire h call.template.loader name).bind_eq fun result =>
        RefiledRuns.oblivious (oblivious_put call.template _)
    · simp
  | loadLibrary name =>
    rw [doActionIn, doAction, hvalue]
    · exact (refiled_loadLibrary h call.template.loader name call.template.libraries).bind_eq
        fun library => RefiledRuns.oblivious (oblivious_put call.template _)
    · simp
  | _ => exact congruent_doAction (RefiledRuns f.value f'.value before Eq) hbase hnested _

theorem refiled_runBodyIn (hfile : call.template.file = some f)
    (hbase : RefiledRuns f.value f'.value before Eq base base')
    (hnested : ∀ engines engine data, RefiledRuns f.value f'.value before Eq
      (nested engines engine data) (nested' engines engine data)) (actions : List Action) :
    RefiledRuns f.value f'.value before Eq (runBodyIn (.showing shown) call base nested actions)
      (runBodyIn (.showing shown') (call.withFile f') base' nested' actions) := by
  induction actions with
  | nil => exact .oblivious (oblivious_payloadOf call.template)
  | cons action rest ih =>
    by_cases hfinish : ∃ data, action = .finish data
    · obtain ⟨data, rfl⟩ := hfinish
      exact .oblivious (oblivious_evalPayload data)
    · have hgoes : ∀ data, action ≠ .finish data := not_exists.1 hfinish
      rw [runBodyIn_cons _ rest hgoes, runBodyIn_cons _ rest hgoes]
      exact (refiled_doActionIn h hshown hfile hbase hnested action).bind_eq fun _ => ih

/-- In a chain of classes, as evaluation goes up. -/
theorem refiled_evaluateAsIn (hfile : call.template.file = some f)
    (hnested : ∀ engines engine data, RefiledRuns f.value f'.value before Eq
      (nested engines engine data) (nested' engines engine data)) (cls : EngineClass) :
    RefiledRuns f.value f'.value before Eq (evaluateAsIn (.showing shown) call nested cls)
      (evaluateAsIn (.showing shown') (call.withFile f') nested' cls) := by
  induction cls with
  | root => exact .raise (.same _)
  | template => exact .raise (.same _)
  | derived own above ih =>
    rw [evaluateAsIn, evaluateAsIn]
    cases own.body with
    | none => exact ih
    | some actions => exact refiled_runBodyIn h hshown hfile ih hnested actions

/-- **A render does the same for files with the same location.** -/
theorem refiled_renderIn (depth engines : Nat) (engine : String) (data : Payload) (context : Json)
    (bindings : Option Bindings) :
    RefiledRuns f.value f'.value before Eq
      (renderIn (.showing shown) depth engines engine (some f) data context bindings)
      (renderIn (.showing shown') depth engines engine (some f') data context bindings) := by
  induction depth generalizing engines engine data bindings with
  | zero => exact .blind (Oblivious.throw .tooDeep).blind
  | succ depth ih =>
    rw [renderIn_succ, renderIn_succ]
    refine Agree.bind (refiled_createTemplate engines engine data none none) fun t t' ht => ?_
    obtain ⟨hfile, rfl⟩ := ht
    have hlocate : locate (some f'.value) = locate (some f.value) := by
      rw [locate, locate, h]
    show RefiledRuns _ _ _ _ (measured engine (some f.value) _) (measured engine (some f'.value) _)
    rw [measured_congr hlocate]
    refine RefiledRuns.measures.measured engine _ (refiled_evaluateAsIn h hshown hfile ?_ t.cls)
    intro engines engine data
    rw [nestedIn, hfile]
    exact ih engines engine data (some (bindings.getD []))

/-- **So does an evaluation.** -/
theorem refiled_evaluateIn {t : Template} (hfile : t.file = some f) (depth : Nat) (context : Json)
    (bindings : Option Bindings) :
    RefiledRuns f.value f'.value before Eq (evaluateIn (.showing shown) depth t context bindings)
      (evaluateIn (.showing shown') depth (t.withFile f') context bindings) := by
  refine refiled_evaluateAsIn h hshown hfile ?_ t.cls
  intro engines engine data
  rw [nestedIn, hfile]
  exact refiled_renderIn h hshown depth engines engine data context bindings

end

/-! ### Engines that do not show their file -/

section
variable {shown : Option File → Json} {call : Call} {base : Run Payload}
  {nested : Nat → String → Payload → Run Payload}

theorem runBodyIn_showing {actions : List Action} (h : .putFile ∉ actions) :
    runBodyIn (.showing shown) call base nested actions = runBody call base nested actions := by
  induction actions with
  | nil => rfl
  | cons action rest ih =>
    have hrest := ih fun hmem => h (List.mem_cons_of_mem action hmem)
    cases action with
    | putFile => exact absurd List.mem_cons_self h
    | finish data => rfl
    | _ => exact bind_congr fun _ => hrest

/-- Where no body puts its file, it makes no difference what would be put for it. -/
theorem evaluateAsIn_showing {cls : EngineClass} (h : .putFile ∉ cls.actions) :
    evaluateAsIn (.showing shown) call nested cls = evaluateAs call nested cls := by
  induction cls with
  | root => rfl
  | template => rfl
  | derived own above ih =>
    rw [EngineClass.actions_derived, List.mem_append, not_or] at h
    rw [evaluateAsIn, evaluateAs, ih h.2]
    cases hbody : own.body with
    | none => rfl
    | some actions =>
      rw [hbody] at h
      exact runBodyIn_showing h.1

end

/-- No body of a registered engine puts its file. -/
def Discreet (s : Session) : Prop :=
  ∀ engines engine cls, (s.registry engines).get? engine = some cls → .putFile ∉ cls.actions

/-- Wherever the registries are as they are here, the programs do the same, and leave them so. -/
def SameAmong (s : Session) (p q : Run α) : Prop :=
  Keeps SameEngines p ∧ ∀ now, SameEngines s now → q.run now = p.run now

namespace SameAmong

variable {p q : Run α}

theorem of_keeps (h : Keeps SameEngines p) : SameAmong s p p := ⟨h, fun _ _ => rfl⟩

theorem bind {f g : α → Run β} (hpq : SameAmong s p q) (hfg : ∀ a, SameAmong s (f a) (g a)) :
    SameAmong s (p >>= f) (q >>= g) := by
  refine ⟨hpq.1.bind fun a => (hfg a).1, fun now hnow => ?_⟩
  rw [run_bind, run_bind, hpq.2 now hnow]
  rcases hrun : p.run now with ⟨halt | a, after⟩
  · rfl
  · have hafter : SameEngines now after := by
      have hsame := hpq.1 now
      rwa [hrun] at hsame
    exact (hfg a).2 after (hafter.trans hnow)

theorem oblivious (h : Oblivious p) : SameAmong s p p := by
  refine of_keeps fun now => ?_
  show (p.run now).2.engines = now.engines
  exact congrArg (fun r => r.2.engines) (h now now.engines now.clock now.log)

theorem measured (engine : String) (file : Option File) {p q : Run Payload}
    (h : SameAmong s p q) : SameAmong s (measured engine file p) (measured engine file q) := by
  have hread : Keeps SameEngines readClock := fun _ => rfl
  have hrecord : ∀ e, Keeps SameEngines (record e) := fun _ _ => rfl
  have hobserve : SameAmong s (observe p) (observe q) := by
    refine ⟨fun now => h.1 now, fun now hnow => ?_⟩
    rw [run_observe, run_observe, h.2 now hnow]
  refine bind (of_keeps hread) fun start => bind hobserve fun out => of_keeps ?_
  exact keeps_finishRender hread hrecord engine file start out

end SameAmong

instance : Congruence (SameAmong s) where
  bind := .bind
  oblivious := .oblivious
  recorded _ := .of_keeps fun _ => rfl
  created _ _ _ _ _ _ := .of_keeps (keeps_createTemplate _ _ _ _ _ _)
  measuring := .measured

/-- **Where no registered engine shows its file, it makes no difference to a render what would be
shown for it.** -/
theorem renderIn_showing (h : s.Discreet) (shown : Option File → Json) (depth engines : Nat)
    (engine : String) (file : Option (Traced File)) (data : Payload) (context : Json)
    (bindings : Option Bindings) :
    SameAmong s (render depth engines engine file data context bindings)
      (renderIn (.showing shown) depth engines engine file data context bindings) := by
  induction depth generalizing engines engine file data bindings with
  | zero => exact .of_keeps (OverlooksRenders.keeps_render 0 engines engine file data context _)
  | succ depth ih =>
    refine ⟨OverlooksRenders.keeps_render _ engines engine file data context bindings, ?_⟩
    intro now hnow
    rw [render_succ, renderIn_succ]
    rcases hcreated : (createTemplate engines engine file data none none).run now with
      ⟨halt | t, created⟩
    · rw [run_bind_error hcreated, run_bind_error hcreated]
    · -- the template is of a class that is registered
      have hcls : .putFile ∉ t.cls.actions := by
        refine h engines engine t.cls ?_
        rw [registry, ← hnow]
        exact (of_run_createTemplate hcreated).1
      have hsame : SameEngines s created := by
        have hkeeps : Keeps SameEngines (createTemplate engines engine file data none none) :=
          keeps_createTemplate _ _ _ _ _ _
        have hcreating := hkeeps now
        rw [hcreated] at hcreating
        exact hcreating.trans hnow
      have hevaluate : SameAmong s (evaluate depth t context (some (bindings.getD [])))
          (evaluateIn (.showing shown) depth t context (some (bindings.getD []))) := by
        rw [evaluateIn, evaluateAsIn_showing hcls]
        refine congruent_evaluateAs (SameAmong s) (fun engines engine data => ?_) t.cls
        exact ih engines engine t.file data (some (bindings.getD []))
      rw [run_bind_ok hcreated, run_bind_ok hcreated]
      exact (hevaluate.measured engine (file.map Traced.value)).2 created hsame

/-- **Nor to an evaluation**, if the template's own class does not either. -/
theorem evaluateIn_showing (h : s.Discreet) {t : Template} (hcls : .putFile ∉ t.cls.actions)
    (shown : Option File → Json) (depth : Nat) (context : Json) (bindings : Option Bindings) :
    SameAmong s (evaluate depth t context bindings)
      (evaluateIn (.showing shown) depth t context bindings) := by
  rw [evaluateIn, evaluateAsIn_showing hcls]
  refine congruent_evaluateAs (SameAmong s) (fun engines engine data => ?_) t.cls
  exact renderIn_showing h shown depth engines engine t.file data context bindings

/-! ### Files by their location -/

/-- **Of a file, the location matters, and in two places how it is shown.**  Whatever is asked for
two files with the same location has the same answers, and is told in the same reports and in the
same events, but for the file that a name without a meaning is refused for, and that a dependency
has been loaded for: there, the same words are around the file as it is shown.  Templates that are
made for the files differ in their files, and evaluations in what their bodies put for these; they
are the same if the one file is put in both, and so where no body puts its file. -/
theorem only_location_matters (f f' : Traced File) (h : f.value.location = f'.value.location)
    (before : List Event) :
    (∀ l name,
      RefiledRuns f.value f'.value before Eq (require l name (some f.value))
        (require l name (some f'.value)) ∧
      RefiledRuns f.value f'.value before Eq (tryRequire l name (some f.value))
        (tryRequire l name (some f'.value)) ∧
      ∀ ref, RefiledRuns f.value f'.value before Eq (loadLibrary l name (some f.value) ref)
        (loadLibrary l name (some f'.value) ref)) ∧
    (∀ on, performEngines on (.forFile (some f.value)) =
      performEngines on (.forFile (some f'.value))) ∧
    (∀ engines engine data libraries loader,
      RefiledRuns f.value f'.value before (fun t t' => t.file = some f ∧ t' = t.withFile f')
        (createTemplate engines engine (some f) data libraries loader)
        (createTemplate engines engine (some f') data libraries loader)) ∧
    (∀ depth engines engine data context bindings,
      RefiledRuns f.value f'.value before Eq
        (render depth engines engine (some f) data context bindings)
        (renderIn (.putting f.value) depth engines engine (some f') data context bindings)) ∧
    (∀ t : Template, t.file = some f → ∀ depth context bindings,
      RefiledRuns f.value f'.value before Eq (evaluate depth t context bindings)
        (evaluateIn (.putting f.value) depth (t.withFile f') context bindings)) ∧
    (∀ s : Session, s.Discreet → ∀ depth context bindings,
      (∀ engines engine data,
        (renderIn (.putting f.value) depth engines engine (some f') data context bindings).run s =
          (render depth engines engine (some f') data context bindings).run s) ∧
      ∀ t : Template, .putFile ∉ t.cls.actions →
        (evaluateIn (.putting f.value) depth t context bindings).run s =
          (evaluate depth t context bindings).run s) ∧
    (∀ fault fault', Fault.Refiled f.value f'.value fault fault' →
      (fault.kind = fault'.kind ∧ fault.generalKinds = fault'.generalKinds ∧
        fault.contract? = fault'.contract? ∧ fault.causeFields = fault'.causeFields) ∧
      SameWords f.value f'.value fault.message fault'.message) ∧
    (∀ e e', Event.Refiled f.value f'.value e e' →
      e.severity = e'.severity ∧ e.channel = e'.channel ∧ e.faultKind? = e'.faultKind? ∧
        SameWords f.value f'.value e.message e'.message) ∧
    (f.value.display = f'.value.display →
      (∀ fault fault', Fault.Refiled f.value f'.value fault fault' →
        fault.report = fault'.report) ∧
      ∀ e e', Event.Refiled f.value f'.value e e' → e.toJson = e'.toJson) := by
  refine ⟨fun l name => ⟨refiled_require h l name, refiled_tryRequire h l name,
    refiled_loadLibrary h l name⟩, ?_, refiled_createTemplate, ?_, ?_, ?_, ?_, ?_, ?_⟩
  · intro on
    simp only [performEngines, locate, h]
  · intro depth engines engine data context bindings
    rw [← renderIn_own]
    exact refiled_renderIn h rfl depth engines engine data context bindings
  · intro t hfile depth context bindings
    rw [← evaluateIn_own]
    exact refiled_evaluateIn h rfl hfile depth context bindings
  · intro s hs depth context bindings
    refine ⟨fun engines engine data => ?_, fun t hcls => ?_⟩
    · exact (renderIn_showing hs _ depth engines engine (some f') data context bindings).2 s rfl
    · exact (evaluateIn_showing hs hcls _ depth context bindings).2 s rfl
  · exact fun fault fault' hfault => ⟨hfault.contract, hfault.message⟩
  · exact fun e e' he => he.reads
  · exact fun hshown => ⟨fun _ _ hfault => hfault.report hshown, fun _ _ he => he.toJson hshown⟩

/-- A session with a module and an engine that requires it. -/
def loadingSession : Session :=
  (initial (Dict.ofList [("yaml", ⟨false, [], none⟩)]) .still).entered 1 "page"
    (.derived ⟨2, "Page", none, none, some [.require "yaml"]⟩ .template) []

theorem discreet_loadingSession : loadingSession.Discreet := by
  refine registered_entered ?_ (by decide)
  intro engines engine c hc
  cases hc

/-- A page that is given by an object of its own is rendered as one that is given by its name. -/
theorem page_rendered_for_either :
    let file : File := .pathLike "page.md"
    let rendered (file : File) := (render 2 1 "page" (some ⟨file, .written 1⟩)
      (.text ⟨"page", .shared⟩) .null none).run loadingSession
    file.location = (File.text "page.md").location ∧ loadingSession.Discreet ∧
      Outcome.Alike (Halt.Refiled file (.text "page.md")) Eq (rendered file).1
        (rendered (.text "page.md")).1 ∧
      Refiled file (.text "page.md") loadingSession.log (rendered file).2
        (rendered (.text "page.md")).2 := by
  intro file rendered
  have hmatters := only_location_matters ⟨file, .written 1⟩ ⟨.text "page.md", .written 1⟩ rfl
    loadingSession.log
  obtain ⟨-, -, -, hrender, -, hdiscreet, -⟩ := hmatters
  have halike := hrender 2 1 "page" (.text ⟨"page", .shared⟩) .null none _ _
    (refiled_self loadingSession)
  have hput := (hdiscreet _ discreet_loadingSession 2 .null none).1 1 "page"
    (.text ⟨"page", .shared⟩)
  rw [hput] at halike
  exact ⟨rfl, discreet_loadingSession, halike⟩

/-- But the object itself is shown, to a caller by whom a name without a meaning is required for it,
and in the log. -/
theorem page_shown_as_object :
    let file : File := .pathLike "page.md"
    let required (name : String) (file : File) :=
      (require ⟨.default⟩ name (some file)).run loadingSession
    (required "" file).1 = .error (.fault (.emptyDependency (some file))) ∧
      (Fault.emptyDependency (some file)).message =
        "Empty dependency name required for file 'RawPath('page.md')'" ∧
      (required "" (.text file.location)).1 =
        .error (.fault (.emptyDependency (some (.text "page.md")))) ∧
      (Fault.emptyDependency (some (.text "page.md"))).message =
        "Empty dependency name required for file 'page.md'" ∧
      (required "yaml" file).2.log.getLast?.map Event.message =
        some "Loaded dependency 'yaml' for RawPath('page.md')" ∧
      (required "yaml" (.text file.location)).2.log.getLast?.map Event.message =
        some "Loaded dependency 'yaml' for page.md" := by
  refine ⟨rfl, ?_, rfl, rfl, ?_, ?_⟩ <;> decide +kernel

end Session

end AssetPipeline
