/-
AssetPipeline/Proofs/Session/StoreAddress.lean

Which stores of libraries are used, and for whom.

A template is bound to one store when it is made: to the one that it is given, or else to that
of the nearest class up its chain which brings one, or else to the shared one.  An evaluation
uses this store where an action of a body asks for it.  The renders inside it use the stores of
engines that are registered, in the same way.  Every other use belongs to a step that names the
store, or a template that is bound to it.

Main statements: `bound_chooseLibraries` says to which store a template is bound, and
`addressed_of_stepUses` that a step has no uses but those it asks for.  So a store that a step
does not ask for is left alone (`storeAt_performStep`).
-/
import AssetPipeline.Proofs.Session.StoreUse

namespace AssetPipeline

/-! ### Classes and their chains -/

namespace EngineClass

/-- The traits of the class and of those above it, nearest first. -/
def lineage : EngineClass → List Traits
  | .root | .template => []
  | .derived own base => own :: base.lineage

/-- What the bodies of the class and of those above it do. -/
def actions (c : EngineClass) : List Action := c.lineage.flatMap fun own => own.body.getD []

theorem actions_derived (own : Traits) (base : EngineClass) :
    (derived own base).actions = own.body.getD [] ++ base.actions := rfl

/-- A template of the class, made with a store or without, is bound to this store. -/
inductive Bound (c : EngineClass) : Option LibrariesRef → LibrariesRef → Prop
  | given (ref : LibrariesRef) : c.Bound (some ref) ref
  /-- The nearest class that brings a store. -/
  | nearest {below above : List Traits} {own : Traits} {ref : LibrariesRef} :
      c.lineage = below ++ own :: above → (∀ traits ∈ below, traits.libraries = none) →
      own.libraries = some ref → c.Bound none ref
  | shared : (∀ traits ∈ c.lineage, traits.libraries = none) → c.Bound none .shared

theorem getD_libraries? (c : EngineClass) :
    c.libraries?.getD .shared = (c.lineage.findSome? Traits.libraries).getD .shared := by
  induction c with
  | root => rfl
  | template => rfl
  | derived own base ih =>
    cases h : own.libraries with
    | none => simpa [libraries?, lineage, h] using ih
    | some ref => simp [libraries?, lineage, h]

/-- **A template is bound to one store**, which is chosen when it is made. -/
theorem bound_chooseLibraries (c : EngineClass) (given : Option LibrariesRef) :
    c.Bound given (Template.chooseLibraries c given) := by
  rcases given with _ | ref
  · show c.Bound none (c.libraries?.getD .shared)
    rw [getD_libraries?]
    rcases hnearest : c.lineage.findSome? Traits.libraries with _ | ref
    · exact .shared (List.findSome?_eq_none_iff.1 hnearest)
    · obtain ⟨below, own, above, hlineage, hown, hbelow⟩ :=
        List.findSome?_eq_some_iff.1 hnearest
      exact .nearest hlineage hbelow hown
  · exact .given ref

end EngineClass

/-! ### Who asks for a use -/

/-- A body of the template's class, or of a class above it, asks for the use. -/
inductive Template.Asks (t : Template) : Nat × Use → Prop
  | loaded {name : String} {library : Object} : .loadLibrary name ∈ t.cls.actions →
      t.Asks (t.libraries.id, .loaded t.loader name library)
  | written {name : String} {value : LibraryValue} {library : Object} :
      .setLibrary name value ∈ t.cls.actions → t.Asks (t.libraries.id, .written name library)

/-- The factory asks for the use of the store that it fills. -/
inductive Factory.Asks : Factory → Use → Prop
  | cleared {writes fills failure value} : (make true writes fills failure value).Asks .emptied
  | written {clear writes fills failure value name given library} : (name, given) ∈ writes →
      (make clear writes fills failure value).Asks (.written name library)
  | filled {clear writes fills failure value name inner library} : (name, inner) ∈ fills →
      (make clear writes fills failure value).Asks (.written name library)
  | inside {clear writes fills failure value name inner use} : (name, inner) ∈ fills →
      Factory.Asks inner use → (make clear writes fills failure value).Asks use

/-- A step on a store asks for the use. -/
inductive LibrariesStep.Asks : LibrariesStep → Use → Prop
  | set {name : String} {value : LibraryValue} {library : Object} :
      (set name value).Asks (.written name library)
  | assign {name : String} {value : LibraryValue} {library : Object} :
      (assign name value).Asks (.written name library)
  | clear : clear.Asks .emptied
  | ensure {name : String} {factory : Factory} {library : Object} :
      (ensure name factory).Asks (.written name library)
  | factory {name : String} {factory : Factory} {use : Use} : factory.Asks use →
      (ensure name factory).Asks use

namespace Session

variable {α β : Type} {s after : Session}

/-- A render may ask for the use: an engine that is registered does, by a template which is not
given a store. -/
def RenderAsks (s : Session) (use : Nat × Use) : Prop :=
  ∃ (engines : Nat) (engine : String) (t : Template),
    (s.registry engines).get? engine = some t.cls ∧
      t.cls.Bound none t.libraries ∧ t.loader = ⟨.default⟩ ∧ t.Asks use

/-- A step asks for a use of a store. -/
inductive Addressed (s : Session) : Step → Nat × Use → Prop
  | made {title : String} : Addressed s (.newLibraries title) (s.next, .emptied)
  | store {on : String} {ref : LibrariesRef} {step : LibrariesStep} {use : Use} :
      s.handles.get? on = some (.libraries ref) → step.Asks use →
      Addressed s (.libraries on step) (ref.id, use)
  | loader {on libraries name : String} {id : Nat} {l : Loader} {ref : LibrariesRef}
      {file : Option File} {library : Object} : s.handles.get? on = some (.loader id l) →
      s.handles.get? libraries = some (.libraries ref) →
      Addressed s (.loader on (.loadLibrary name file libraries)) (ref.id, .loaded l name library)
  | template {on name : String} {t : Template} {library : Object} :
      s.handles.get? on = some (.template t) →
      Addressed s (.template on (.loadLibrary name))
        (t.libraries.id, .loaded t.loader name library)
  | evaluation {on : String} {t : Template} {context : Json} {bindings : Option Bindings}
      {use : Nat × Use} : s.handles.get? on = some (.template t) → t.Asks use ∨ s.RenderAsks use →
      Addressed s (.template on (.evaluate context bindings)) use
  | render {on name : String} {file : Option (Traced File)} {data : PayloadValue} {context : Json}
      {bindings : Option Bindings} {use : Nat × Use} : s.RenderAsks use →
      Addressed s (.engines on (.render name file data context bindings)) use

/-! ### Templates that have been made -/

/-- **What a new template is made of.** -/
theorem of_run_newTemplate {c : EngineClass} {file : Option (Traced File)} {data : Payload}
    {given : Option LibrariesRef} {loader : Option Loader} {t : Template}
    (h : (newTemplate c file data given loader).run s = (.ok t, after)) :
    t.cls = c ∧ c.Bound given t.libraries ∧ t.loader = loader.getD ⟨.default⟩ := by
  unfold newTemplate at h
  split at h
  · rw [run_bind_error (run_raise _ s)] at h
    cases h
  · cases h
    exact ⟨rfl, c.bound_chooseLibraries given, rfl⟩

theorem of_run_createTemplate {engines : Nat} {engine : String} {file : Option (Traced File)}
    {data : Payload} {given : Option LibrariesRef} {loader : Option Loader} {t : Template}
    (h : (createTemplate engines engine file data given loader).run s = (.ok t, after)) :
    (s.registry engines).get? engine = some t.cls ∧
      t.cls.Bound given t.libraries ∧ t.loader = loader.getD ⟨.default⟩ := by
  rw [createTemplate, run_bind_ok (run_get s), Engines.resolve] at h
  rcases hknown : (s.registry engines).get? engine with _ | c
  · rw [hknown] at h
    cases h
  · rw [hknown] at h
    obtain ⟨rfl, hmade⟩ := of_run_newTemplate h
    exact ⟨rfl, hmade⟩

/-! ### Uses that are asked for -/

theorem mem_bindUses {p : Run α} {first : Session → List (Nat × Use)}
    {second : α → Session → List (Nat × Use)} {use : Nat × Use} :
    use ∈ bindUses p first second s ↔
      use ∈ first s ∨ ∃ a after, p.run s = (.ok a, after) ∧ use ∈ second a after := by
  rw [bindUses, List.mem_append]
  rcases p.run s with ⟨halt | a, after⟩
  · constructor
    · rintro (hmem | ⟨⟨⟩⟩)
      exact .inl hmem
    · rintro (hmem | ⟨_, _, ⟨⟩, _⟩)
      exact .inl hmem
  · constructor
    · rintro (hmem | hmem)
      · exact .inl hmem
      · exact .inr ⟨a, after, rfl, hmem⟩
    · rintro (hmem | ⟨_, _, ⟨⟩, hmem⟩)
      · exact .inl hmem
      · exact .inr hmem

theorem mem_bindUses_noUses {p : Run α} {second : α → Session → List (Nat × Use)}
    {use : Nat × Use} : use ∈ bindUses p noUses second s ↔
      ∃ a after, p.run s = (.ok a, after) ∧ use ∈ second a after := by
  simp [mem_bindUses, noUses]

theorem eq_of_mem_loadUses {l : Loader} {name : String} {file : Option File} {ref : LibrariesRef}
    {use : Nat × Use} (h : use ∈ loadUses l name file ref s) :
    ∃ library, use = (ref.id, .loaded l name library) := by
  obtain ⟨library, -, -, hmem⟩ := mem_bindUses_noUses.1 h
  exact ⟨library, List.mem_singleton.1 hmem⟩

/-- Wherever the registries are as they are here, the uses are allowed. -/
def Within (s : Session) (allowed : Nat × Use → Prop) (uses : Session → List (Nat × Use)) : Prop :=
  ∀ now, SameEngines s now → ∀ use ∈ uses now, allowed use

section
variable {allowed : Nat × Use → Prop} {p : Run α} {first : Session → List (Nat × Use)}
  {second : α → Session → List (Nat × Use)}

theorem within_noUses : Within s allowed noUses := fun _ _ _ hmem => absurd hmem List.not_mem_nil

theorem Within.bind (hp : Keeps SameEngines p) (hfirst : Within s allowed first)
    (hsecond : ∀ now a after, SameEngines s now → p.run now = (.ok a, after) →
      Within s allowed (second a)) : Within s allowed (bindUses p first second) := by
  intro now hnow use hmem
  rcases mem_bindUses.1 hmem with hmem | ⟨a, after, hrun, hmem⟩
  · exact hfirst now hnow use hmem
  · have hafter : SameEngines now after := by
      have hsame := hp now
      rwa [hrun] at hsame
    exact hsecond now a after hnow hrun after (hafter.trans hnow) use hmem

end

section
variable {allowed : Nat × Use → Prop} {call : Call} {base : Run Payload}
  {nested : Nat → String → Payload → Run Payload} {baseUses : Session → List (Nat × Use)}
  {nestedUses : Nat → String → Payload → Session → List (Nat × Use)}

/-- An action asks for the use of its own store only. -/
theorem within_actionUses {action : Action}
    (hown : ∀ use, call.template.Asks use → allowed use)
    (haction : action ∈ call.template.cls.actions) (hbase : Within s allowed baseUses)
    (hnested : ∀ engines engine data, Within s allowed (nestedUses engines engine data)) :
    Within s allowed (actionUses call nestedUses baseUses action) := by
  cases action with
  | loadLibrary name =>
    intro now _ use hmem
    obtain ⟨library, rfl⟩ := eq_of_mem_loadUses hmem
    exact hown _ (.loaded haction)
  | setLibrary name value =>
    intro now _ use hmem
    rw [actionUses, mem_bindUses_noUses] at hmem
    obtain ⟨library, after, -, hmem⟩ := hmem
    rw [List.mem_singleton.1 hmem]
    exact hown _ (.written haction)
  | callBase => exact hbase
  | render engines engine data =>
    refine .bind (views_enginesAt engines).keeps within_noUses fun _ id _ _ _ => ?_
    exact .bind (keeps_evalPayload data) within_noUses fun _ data _ _ _ => hnested id engine data
  | _ => exact within_noUses

theorem within_bodyUses {actions : List Action}
    (hown : ∀ use, call.template.Asks use → allowed use)
    (hactions : ∀ action ∈ actions, action ∈ call.template.cls.actions)
    (hsame : Keeps SameEngines base)
    (hsameNested : ∀ engines engine data, Keeps SameEngines (nested engines engine data))
    (hbase : Within s allowed baseUses)
    (hnested : ∀ engines engine data, Within s allowed (nestedUses engines engine data)) :
    Within s allowed (bodyUses call nested nestedUses base baseUses actions) := by
  induction actions with
  | nil => exact within_noUses
  | cons action rest ih =>
    have hfirst := within_actionUses hown (hactions action List.mem_cons_self) hbase hnested
    have hrest := ih fun action' hmem => hactions action' (List.mem_cons_of_mem action hmem)
    have hkeeps : Keeps SameEngines (doAction call base nested action) :=
      OverlooksRenders.keeps_doAction hsame hsameNested action
    -- an action that ends the body is not done at all
    cases action with
    | finish data => exact within_noUses
    | _ => exact .bind hkeeps hfirst fun _ _ _ _ _ => hrest

theorem within_classUses {c : EngineClass}
    (hown : ∀ use, call.template.Asks use → allowed use)
    (hactions : ∀ action ∈ c.actions, action ∈ call.template.cls.actions)
    (hsameNested : ∀ engines engine data, Keeps SameEngines (nested engines engine data))
    (hnested : ∀ engines engine data, Within s allowed (nestedUses engines engine data)) :
    Within s allowed (classUses call nested nestedUses c) := by
  -- on the chain of classes, as evaluation goes up
  induction c with
  | root => exact within_noUses
  | template => exact within_noUses
  | derived own above ih =>
    rw [EngineClass.actions_derived] at hactions
    have habove := ih fun action hmem => hactions action (List.mem_append_right _ hmem)
    rw [classUses]
    cases hbody : own.body with
    | none => exact habove
    | some actions =>
      have hsame : Keeps SameEngines (evaluateAs call nested above) :=
        OverlooksRenders.keeps_evaluateAs hsameNested above
      refine within_bodyUses hown ?_ hsame hsameNested habove hnested
      intro action hmem
      refine hactions action (List.mem_append_left _ ?_)
      rwa [hbody]

end

/-- **A render uses the stores of registered engines**, where their bodies ask for it. -/
theorem within_renderUses (depth engines : Nat) (engine : String) (file : Option (Traced File))
    (data : Payload) (context : Json) (bindings : Option Bindings) :
    Within s s.RenderAsks (renderUses depth engines engine file data context bindings) := by
  -- on how deep renders may nest; those inside go by engines and bindings of their own
  induction depth generalizing engines engine file data bindings with
  | zero => exact within_noUses
  | succ depth ih =>
    rw [renderUses]
    refine .bind (keeps_createTemplate _ _ _ _ _ _) within_noUses fun now t _ hnow hrun => ?_
    obtain ⟨hknown, hmade⟩ := of_run_createTemplate hrun
    have hread : Keeps SameEngines readClock := fun _ => rfl
    refine .bind hread within_noUses fun _ start _ _ _ => within_classUses ?_ ?_ ?_ ?_
    · intro use hasks
      refine ⟨engines, engine, t, ?_, hmade.1, hmade.2, hasks⟩
      rw [registry, ← hnow]
      exact hknown
    · exact fun _ hmem => hmem
    · intro engines engine data
      exact OverlooksRenders.keeps_render depth engines engine t.file data context _
    · exact fun engines engine data => ih engines engine t.file data _

theorem within_evaluateUses (depth : Nat) (t : Template) (context : Json)
    (bindings : Option Bindings) :
    Within s (fun use => t.Asks use ∨ s.RenderAsks use)
      (evaluateUses depth t context bindings) := by
  refine within_classUses (fun _ => Or.inl) (fun _ hmem => hmem) ?_ ?_
  · intro engines engine data
    exact OverlooksRenders.keeps_render depth engines engine t.file data context _
  · intro engines engine data now hnow use hmem
    apply Or.inr
    exact within_renderUses depth engines engine t.file data context bindings now hnow use hmem

/-! ### Steps -/

theorem asks_of_setAllUses {ref : LibrariesRef} {writes : List (String × LibraryValue)}
    {use : Nat × Use} (h : use ∈ setAllUses ref writes s) :
    ∃ name given library, (name, given) ∈ writes ∧ use = (ref.id, .written name library) := by
  induction writes generalizing s with
  | nil => cases h
  | cons write rest ih =>
    obtain ⟨name, value⟩ := write
    rw [setAllUses, mem_bindUses_noUses] at h
    obtain ⟨library, after, -, h⟩ := h
    rcases mem_bindUses.1 h with hmem | ⟨_, _, -, hmem⟩
    · exact ⟨name, value, library, List.mem_cons_self, List.mem_singleton.1 hmem⟩
    · obtain ⟨name', given, library', hwrite, huse⟩ := ih hmem
      exact ⟨name', given, library', List.mem_cons_of_mem _ hwrite, huse⟩

/-- Filling a name writes what is made, after the uses that making it has. -/
theorem asks_of_ensureUses {ref : LibrariesRef} {name : String} {make : Run Object}
    {makeUses : Session → List (Nat × Use)} {use : Nat × Use}
    (h : use ∈ ensureUses ref name make makeUses s) :
    (∃ library, use = (ref.id, .written name library)) ∨ use ∈ makeUses s := by
  rw [ensureUses, mem_bindUses_noUses] at h
  obtain ⟨content, after, hrun, h⟩ := h
  obtain rfl : s = after := congrArg Prod.snd ((run_readStore ref s).symm.trans hrun)
  split at h
  · cases h
  · rcases mem_bindUses.1 h with hmem | ⟨library, _, -, hmem⟩
    · exact .inr hmem
    · exact .inl ⟨library, List.mem_singleton.1 hmem⟩

mutual
theorem asks_of_factoryUses {ref : LibrariesRef} {use : Nat × Use} :
    ∀ {factory : Factory} {s : Session}, use ∈ factoryUses ref factory s →
      use.1 = ref.id ∧ factory.Asks use.2
  | .make clear writes fills failure value, s, h => by
    rw [factoryUses] at h
    rcases mem_bindUses.1 h with hmem | ⟨_, cleared, -, h⟩
    · cases clear with
      | true =>
        rw [List.mem_singleton.1 hmem]
        exact ⟨rfl, .cleared⟩
      | false => cases hmem
    rcases mem_bindUses.1 h with hmem | ⟨_, written, -, hmem⟩
    · obtain ⟨name, given, library, hwrite, rfl⟩ := asks_of_setAllUses hmem
      exact ⟨rfl, .written hwrite⟩
    · obtain ⟨hstore, name, inner, hfill, ⟨library, huse⟩ | hinner⟩ := asks_of_fillsUses hmem
      · rw [huse]
        exact ⟨hstore, .filled hfill⟩
      · exact ⟨hstore, .inside hfill hinner⟩
theorem asks_of_fillsUses {ref : LibrariesRef} {use : Nat × Use} :
    ∀ {fills : List (String × Factory)} {s : Session}, use ∈ fillsUses ref fills s →
      use.1 = ref.id ∧ ∃ name inner, (name, inner) ∈ fills ∧
        ((∃ library, use.2 = .written name library) ∨ inner.Asks use.2)
  | [], s, h => by cases h
  | (name, factory) :: rest, s, h => by
    rw [fillsUses] at h
    rcases mem_bindUses.1 h with hmem | ⟨_, filled, -, hmem⟩
    · rcases asks_of_ensureUses hmem with ⟨library, rfl⟩ | hmem
      · exact ⟨rfl, name, factory, List.mem_cons_self, .inl ⟨library, rfl⟩⟩
      · obtain ⟨hstore, hasks⟩ := asks_of_factoryUses hmem
        exact ⟨hstore, name, factory, List.mem_cons_self, .inr hasks⟩
    · obtain ⟨hstore, name', inner, hfill, hasks⟩ := asks_of_fillsUses hmem
      exact ⟨hstore, name', inner, List.mem_cons_of_mem _ hfill, hasks⟩
end

theorem asks_of_librariesUses {on : String} {step : LibrariesStep} {use : Nat × Use}
    (h : use ∈ librariesUses on step s) :
    ∃ ref, s.handles.get? on = some (.libraries ref) ∧ use.1 = ref.id ∧ step.Asks use.2 := by
  cases step with
  | set name value =>
    obtain ⟨ref, _, hon, hset⟩ := mem_bindUses_noUses.1 h
    obtain ⟨hheld, rfl⟩ := of_run_librariesAt hon
    obtain ⟨library, _, -, hmem⟩ := mem_bindUses_noUses.1 hset
    rw [List.mem_singleton.1 hmem]
    exact ⟨ref, hheld, rfl, .set⟩
  | assign name value =>
    obtain ⟨library, after, hvalue, hset⟩ := mem_bindUses_noUses.1 h
    obtain rfl : s = after := (views_evalLibrary value).looks s |>.trans (congrArg Prod.snd hvalue)
    obtain ⟨ref, _, hon, hmem⟩ := mem_bindUses_noUses.1 hset
    obtain ⟨hheld, rfl⟩ := of_run_librariesAt hon
    rw [List.mem_singleton.1 hmem]
    exact ⟨ref, hheld, rfl, .assign⟩
  | clear =>
    obtain ⟨ref, _, hon, hmem⟩ := mem_bindUses_noUses.1 h
    obtain ⟨hheld, rfl⟩ := of_run_librariesAt hon
    rw [List.mem_singleton.1 hmem]
    exact ⟨ref, hheld, rfl, .clear⟩
  | ensure name factory =>
    obtain ⟨ref, _, hon, hread⟩ := mem_bindUses_noUses.1 h
    obtain ⟨hheld, rfl⟩ := of_run_librariesAt hon
    obtain ⟨content, _, -, hensure⟩ := mem_bindUses_noUses.1 hread
    rcases asks_of_ensureUses hensure with ⟨library, rfl⟩ | hmem
    · exact ⟨ref, hheld, rfl, .ensure⟩
    · obtain ⟨hstore, hasks⟩ := asks_of_factoryUses hmem
      exact ⟨ref, hheld, hstore, .factory hasks⟩
  | _ => cases h

/-- **A step has no uses but those it asks for.** -/
theorem addressed_of_stepUses {step : Step} {use : Nat × Use} (h : use ∈ stepUses step s) :
    Addressed s step use := by
  cases step with
  | newLibraries title =>
    rw [stepUses, mem_bindUses_noUses] at h
    obtain ⟨id, after, ⟨⟩, hmem⟩ := h
    rw [List.mem_singleton.1 hmem]
    exact .made
  | libraries on step =>
    obtain ⟨ref, hheld, hstore, hasks⟩ := asks_of_librariesUses h
    obtain ⟨store, use⟩ := use
    obtain rfl : store = ref.id := hstore
    exact .store hheld hasks
  | loader on step =>
    cases step with
    | loadLibrary name file libraries =>
      rw [stepUses, mem_bindUses_noUses] at h
      obtain ⟨l, _, hon, hload⟩ := h
      obtain ⟨⟨id, hl⟩, rfl⟩ := of_run_loaderAt hon
      obtain ⟨ref, _, hlibraries, hmem⟩ := mem_bindUses_noUses.1 hload
      obtain ⟨href, rfl⟩ := of_run_librariesAt hlibraries
      obtain ⟨library, rfl⟩ := eq_of_mem_loadUses hmem
      exact .loader hl href
    | _ => cases h
  | template on step =>
    cases step with
    | evaluate context bindings =>
      rw [stepUses, mem_bindUses_noUses] at h
      obtain ⟨t, _, hon, hmem⟩ := h
      obtain ⟨hheld, rfl⟩ := of_run_templateAt hon
      exact .evaluation hheld (within_evaluateUses depthLimit t context bindings _ rfl use hmem)
    | loadLibrary name =>
      rw [stepUses, mem_bindUses_noUses] at h
      obtain ⟨t, _, hon, hmem⟩ := h
      obtain ⟨hheld, rfl⟩ := of_run_templateAt hon
      obtain ⟨library, rfl⟩ := eq_of_mem_loadUses hmem
      exact .template hheld
    | _ => cases h
  | engines on step =>
    cases step with
    | render name file data context bindings =>
      rw [stepUses, mem_bindUses_noUses] at h
      obtain ⟨id, after, hon, hrender⟩ := h
      obtain rfl : s = after := (views_enginesAt on).looks s |>.trans (congrArg Prod.snd hon)
      obtain ⟨payload, after, hdata, hmem⟩ := mem_bindUses_noUses.1 hrender
      have hsame : SameEngines s after := by
        have hkept := keeps_evalPayload (R := SameEngines) data s
        rwa [hdata] at hkept
      exact .render (within_renderUses _ _ _ _ _ _ _ after hsame use hmem)
    | _ => cases h
  | _ => cases h

/-- **A store that a step does not ask for is left alone**, whether the step fails or not. -/
theorem storeAt_performStep {step : Step} {store : Nat}
    (h : ∀ use, ¬ Addressed s step (store, use)) :
    ((performStep step).run s).2.storeAt store = s.storeAt store := by
  have hnone : usesAt store (stepUses step s) = [] := by
    rw [usesAt, List.map_eq_nil_iff, List.filter_eq_nil_iff]
    rintro ⟨id, use⟩ hmem hid
    obtain rfl : id = store := by simpa using hid
    exact h use (addressed_of_stepUses hmem)
  have hreplay := uses_performStep step s store
  rw [hnone] at hreplay
  exact hreplay

end Session

end AssetPipeline
