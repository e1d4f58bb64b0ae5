/-
AssetPipeline/Proofs/Session/Telling.lean

What holds from one asking of a run to the next.

A relation is linked along a run if it holds from the start to the first time a loader is asked,
from each loader's answer to the next asking, and from the last answer on.  It is so if it
overlooks what happens in between.  About stores of libraries it need not overlook everything: it
may allow some uses of them and not others, and is then linked along the runs all of whose uses it
allows (`Telling`, `Tells`).

Main statements: `tells_render` for renders, `tells_performStep` for one step, and
`linked_allAskings` for the steps of a session.
-/
import AssetPipeline.Proofs.Session.Asking
import AssetPipeline.Proofs.Session.StoreAddress

namespace AssetPipeline

/-- The use is a dependency that is loaded. -/
def Use.isLoad : Use → Bool
  | .loaded .. => true
  | _ => false

namespace Session

variable {α β : Type} {R : Session → Session → Prop} {P : Nat × Use → Prop} {s : Session}

/-- The relation overlooks registries, renders, and all programs whose uses of stores it allows and
which load nothing. -/
class Telling (R : Session → Session → Prop) (P : outParam (Nat × Use → Prop)) : Prop
    extends Lenient R where
  entered : ∀ (s : Session) engines, R s { s with engines := engines }
  rendered : ∀ (s : Session) clock log, R s { s with clock := clock, log := log }
  used : ∀ {α : Type} {p : Run α} {uses : Session → List (Nat × Use)}, UsesStores p uses →
    (∀ {S : Session → Session → Prop} [OverlooksStores S], Keeps S p) →
    ∀ s, (∀ use ∈ uses s, P use ∧ use.2.isLoad = false) → R s (p.run s).2

namespace Telling

theorem keeps_readClock [Telling R P] : Keeps R readClock := fun s => rendered s _ _

theorem keeps_record [Telling R P] (e : Event) : Keeps R (record e) := fun s => rendered s _ _

theorem keeps_register [Telling R P] (id : Nat) (name : String) (candidate : Candidate)
    (extensions : List String) : Keeps R (register id name candidate extensions) := by
  intro s
  rw [run_register]
  cases (s.registry id).accept name candidate with
  | error why => exact refl s
  | ok c =>
    -- the registry changes, and that is written down
    let changed : Session :=
      { s with engines := s.engines.put id ((s.registry id).enter name c extensions) }
    have hchanged : R s changed := entered s _
    have hwritten : R changed (s.entered id name c extensions) := rendered changed _ _
    exact IsTrans.trans _ _ _ hchanged hwritten

end Telling

/-! ### What happens between askings -/

/-- If the relation allows the uses of the program, it holds from each asking to the next. -/
def Tells (R : Session → Session → Prop) (P : Nat × Use → Prop) (p : Run α)
    (uses : Session → List (Nat × Use)) (askings : Session → List Asking) : Prop :=
  ∀ s, (∀ use ∈ uses s, P use) → Linked R s (askings s) (p.run s).2

section
variable {p : Run α} {f : α → Run β} {first : Session → List (Nat × Use)}
  {second : α → Session → List (Nat × Use)} {askings : Session → List Asking}
  {later : α → Session → List Asking}

theorem Keeps.tells (h : Keeps R p) : Tells R P p first noAskings :=
  fun s _ => h s

theorem Tells.observe (hp : Tells R P p first askings) :
    Tells R P (observe p) first askings := by
  intro s hallowed
  rw [run_observe]
  exact hp s hallowed

variable [Telling R P]

/-- **One program after another.** -/
theorem Tells.bind (hp : Tells R P p first askings)
    (hf : ∀ a, Tells R P (f a) (second a) (later a)) :
    Tells R P (p >>= f) (bindUses p first second) (bindAskings p askings later) := by
  intro s hallowed
  rw [bindUses] at hallowed
  have hs := hp s fun use hmem => hallowed use (List.mem_append_left _ hmem)
  rcases hrun : p.run s with ⟨halt | a, after⟩
  · rw [hrun] at hs
    rw [run_bind_error hrun, bindAskings, hrun, List.append_nil]
    exact hs
  · rw [hrun] at hs hallowed
    rw [run_bind_ok hrun, bindAskings, hrun]
    exact hs.append (hf a after fun use hmem => hallowed use (List.mem_append_right _ hmem))

theorem Tells.after_same (hp : Keeps R p)
    (hf : ∀ a, Tells R P (f a) (second a) (later a)) :
    Tells R P (p >>= f) (bindUses p noUses second) (bindAskings p noAskings later) :=
  hp.tells.bind hf

theorem Tells.after_same_unused (hp : Keeps R p)
    (hf : ∀ a, Tells R P (f a) noUses (later a)) :
    Tells R P (p >>= f) noUses (bindAskings p noAskings later) := by
  have h : Tells R P (p >>= f) (bindUses p noUses fun _ => noUses)
      (bindAskings p noAskings later) := .after_same hp hf
  rwa [bindUses_noUses] at h

theorem Tells.before_same (hp : Tells R P p first askings)
    (hf : ∀ a, Keeps R (f a)) : Tells R P (p >>= f) first askings := by
  have h : Tells R P (p >>= f) (bindUses p first fun _ => noUses)
      (bindAskings p askings fun _ => noAskings) := hp.bind fun a => (hf a).tells
  rwa [bindUses_noUses, bindAskings_noAskings] at h

/-- A program that asks no loader is told by its uses. -/
theorem UsesStores.tells (h : UsesStores p first)
    (hkeeps : ∀ {S : Session → Session → Prop} [OverlooksStores S], Keeps S p)
    (hload : ∀ s, ∀ use ∈ first s, use.2.isLoad = false) :
    Tells R P p first noAskings :=
  fun s hallowed => Telling.used h hkeeps s fun use hmem => ⟨hallowed use hmem, hload s use hmem⟩

/-- A program that asks a loader and does nothing else. -/
theorem tells_asked {l : Loader} {other : String} {file : Option File} {errand : Errand}
    (h : ∀ s, (p.run s).2 = (⟨l, other, file, errand, s⟩ : Asking).after) :
    Tells R P p first (asks l other file errand) := by
  intro s _
  rw [h s]
  exact ⟨refl s, refl _⟩

end

/-! ### Evaluations and renders -/

section
variable [Telling R P] (call : Call) {base : Run Payload}
  {nested : Nat → String → Payload → Run Payload}
  {baseUses : Session → List (Nat × Use)} {baseAskings : Session → List Asking}
  {nestedUses : Nat → String → Payload → Session → List (Nat × Use)}
  {nestedAskings : Nat → String → Payload → Session → List Asking}

theorem tells_doAction (hbase : Tells R P base baseUses baseAskings)
    (hnested : ∀ engines engine data, Tells R P (nested engines engine data)
      (nestedUses engines engine data) (nestedAskings engines engine data)) (action : Action) :
    Tells R P (doAction call base nested action)
      (actionUses call nestedUses baseUses action)
      (actionAskings call nestedAskings baseAskings action) := by
  cases action with
  | require name => exact (tells_asked fun _ => rfl).before_same fun _ => keeps_put _ _
  | tryRequire name => exact (tells_asked fun _ => rfl).before_same fun _ => keeps_put _ _
  | loadLibrary name => exact (tells_asked fun _ => rfl).before_same fun _ => keeps_put _ _
  | setLibrary other value =>
    have huses : UsesStores (doAction call base nested (.setLibrary other value))
        (actionUses call nestedUses baseUses (.setLibrary other value)) :=
      .after_same (views_evalLibrary _).keeps fun _ => uses_setLibrary _ _ _
    refine huses.tells (OverlooksStores.keeps_doAction call base nested rfl) fun s use hmem => ?_
    obtain ⟨library, after, -, hmem⟩ := mem_bindUses_noUses.1 hmem
    rw [List.mem_singleton.1 hmem]
    rfl
  | callBase => exact hbase.before_same fun _ => keeps_putTraced _ _
  | render engines engine data =>
    refine .after_same (views_enginesAt engines).keeps fun id => ?_
    refine .after_same (keeps_evalPayload data) fun data => ?_
    exact (hnested id engine data).before_same fun _ => keeps_putTraced _ _
  | _ => exact (keeps_doAction call base nested rfl rfl).tells

theorem tells_runBody (hbase : Tells R P base baseUses baseAskings)
    (hnested : ∀ engines engine data, Tells R P (nested engines engine data)
      (nestedUses engines engine data) (nestedAskings engines engine data))
    (actions : List Action) :
    Tells R P (runBody call base nested actions)
      (bodyUses call nested nestedUses base baseUses actions)
      (bodyAskings call nested nestedAskings base baseAskings actions) := by
  induction actions with
  | nil => exact (views_payloadOf _).keeps.tells
  | cons action rest ih =>
    have hstep := (tells_doAction call hbase hnested action).bind fun _ => ih
    -- an action that ends the body is not done at all
    cases action with
    | finish data => exact (keeps_evalPayload data).tells
    | _ => exact hstep

theorem tells_evaluateAs
    (hnested : ∀ engines engine data, Tells R P (nested engines engine data)
      (nestedUses engines engine data) (nestedAskings engines engine data))
    (c : EngineClass) :
    Tells R P (evaluateAs call nested c) (classUses call nested nestedUses c)
      (classAskings call nested nestedAskings c) := by
  -- on the chain of classes, as evaluation goes up
  induction c with
  | root => exact Keeps.tells (.raise _)
  | template => exact Keeps.tells (.raise _)
  | derived own above ih =>
    rw [evaluateAs, classUses, classAskings]
    cases own.body with
    | none => exact ih
    | some actions => exact tells_runBody call ih hnested actions

end

section
variable [Telling R P]

theorem tells_render (depth engines : Nat) (engine : String) (file : Option (Traced File))
    (data : Payload) (context : Json) (bindings : Option Bindings) :
    Tells R P (render depth engines engine file data context bindings)
      (renderUses depth engines engine file data context bindings)
      (renderAskings depth engines engine file data context bindings) := by
  -- on how deep renders may nest; those inside go by engines and bindings of their own
  induction depth generalizing engines engine file data bindings with
  | zero => exact Keeps.tells fun s => refl s
  | succ depth ih =>
    rw [render, renderUses, renderAskings]
    refine .after_same (keeps_createTemplate _ _ _ _ _ _) fun t => ?_
    refine .after_same Telling.keeps_readClock fun start => ?_
    refine Tells.before_same (Tells.observe (tells_evaluateAs _ ?_ t.cls)) fun out => ?_
    · intro engines engine data
      exact ih engines engine t.file data _
    · exact keeps_finishRender Telling.keeps_readClock Telling.keeps_record engine _ start out

theorem tells_evaluate (depth : Nat) (t : Template) (context : Json)
    (bindings : Option Bindings) :
    Tells R P (evaluate depth t context bindings) (evaluateUses depth t context bindings)
      (evaluateAskings depth t context bindings) := by
  apply tells_evaluateAs
  intro engines engine data
  exact tells_render depth engines engine t.file data context bindings

/-! ### Steps -/

theorem isLoad_of_factoryAsks {factory : Factory} {use : Use} (h : factory.Asks use) :
    use.isLoad = false := by
  induction h with
  | inside _ _ ih => exact ih
  | _ => rfl

theorem isLoad_of_asks {step : LibrariesStep} {use : Use} (h : step.Asks use) :
    use.isLoad = false := by
  cases h with
  | factory hfactory => exact isLoad_of_factoryAsks hfactory
  | _ => rfl

theorem tells_performLoader (on : String) (step : LoaderStep) :
    Tells R P (performLoader on step) (stepUses (.loader on step))
      (loaderAskings on step) := by
  cases step with
  | require other file =>
    refine .after_same_unused (views_loaderAt on).keeps fun l => ?_
    exact (tells_asked fun _ => rfl).before_same fun _ => .pure _
  | tryRequire other file =>
    refine .after_same_unused (views_loaderAt on).keeps fun l => ?_
    exact (tells_asked fun _ => rfl).before_same fun _ => keeps_newResult _ _
  | loadLibrary other file libraries =>
    refine .after_same (views_loaderAt on).keeps fun l => ?_
    refine .after_same (views_librariesAt libraries).keeps fun ref => ?_
    exact tells_asked fun _ => rfl

theorem tells_performTemplate (on : String) (step : TemplateStep) :
    Tells R P (performTemplate on step) (stepUses (.template on step))
      (templateAskings on step) := by
  cases step with
  | evaluate context bindings =>
    refine .after_same (views_templateAt on).keeps fun t => ?_
    exact (tells_evaluate depthLimit t context bindings).before_same fun _ => .pure _
  | require other =>
    refine .after_same_unused (views_templateAt on).keeps fun t => ?_
    exact (tells_asked fun _ => rfl).before_same fun _ => .pure _
  | tryRequire other =>
    refine .after_same_unused (views_templateAt on).keeps fun t => ?_
    exact (tells_asked fun _ => rfl).before_same fun _ => keeps_newResult _ _
  | loadLibrary other =>
    refine .after_same (views_templateAt on).keeps fun t => ?_
    exact tells_asked fun _ => rfl
  | _ => exact (keeps_performTemplate on rfl).tells

/-- **Between the askings of a step**, a relation holds that allows its uses.  Steps on the modules
have no askings, and the relation may take them as it likes. -/
theorem tells_performStep (step : Step)
    (hmodules : ∀ change, step = .modules change → Keeps R (performModules change)) :
    Tells R P (performStep step) (stepUses step) (stepAskings step) := by
  cases step with
  | newLibraries title =>
    refine UsesStores.tells (uses_performStep (.newLibraries title)) ?_ fun s use hmem => ?_
    · exact (keeps_newStore title).bind fun _ => .pure _
    · cases addressed_of_stepUses hmem
      rfl
  | libraries on step =>
    refine UsesStores.tells (uses_performLibraries on step) ?_ fun s use hmem => ?_
    · exact OverlooksStores.keeps_performLibraries on step
    · obtain ⟨ref, -, -, hasks⟩ := asks_of_librariesUses hmem
      exact isLoad_of_asks hasks
  | loader on step => exact tells_performLoader on step
  | template on step => exact tells_performTemplate on step
  | engines on step =>
    cases step with
    | render other file data context bindings =>
      refine .after_same (views_enginesAt on).keeps fun id => ?_
      refine .after_same (keeps_evalPayload data) fun data => ?_
      exact (tells_render depthLimit id other file data context bindings).before_same
        fun _ => .pure _
    | _ =>
      exact (keeps_performEngines on rfl Telling.keeps_register
        fun _ _ _ => Telling.entered _ _).tells
  | newEngines => exact Keeps.tells (keeps_freshId.bind fun _ => fun s => Telling.entered s _)
  | modules change => exact (hmodules change rfl).tells
  | newLoader config => exact (keeps_newLoader config).tells
  | newResult value fault => exact (keeps_madeResult value fault).tells
  | result on step => exact (views_performResult on step).keeps.tells
  | newTemplate cls file data libraries loader =>
    exact (keeps_madeTemplate cls file data libraries loader).tells
  | cls id step => exact (views_performClass id step).keeps.tells
  | same first second => exact (views_compared first second).keeps.tells

theorem tells_serve (r : Request)
    (hmodules : ∀ change, r.step = .modules change → Keeps R (performModules change)) :
    Tells R P (serve r) (stepUses r.step) (stepAskings r.step) :=
  (tells_performStep r.step hmodules).before_same fun o =>
    (keeps_bindOptional o r.handle).bind fun _ => .pure _

/-- **Between the askings of all steps** it holds as well. -/
theorem linked_allAskings {requests : List Request}
    (hmodules : ∀ r ∈ requests, ∀ change, r.step = .modules change →
      Keeps R (performModules change))
    (hallowed : ∀ use ∈ allUses requests s, P use) :
    Linked R s (allAskings requests s) (afterAll requests s) := by
  induction requests generalizing s with
  | nil => exact refl s
  | cons r rest ih =>
    rw [allUses] at hallowed
    have hfirst := tells_serve r (hmodules r List.mem_cons_self) { s with log := [] }
      fun use hmem => hallowed use (List.mem_append_left _ hmem)
    -- an answer starts with an empty log
    have hcleared : R s { s with log := [] } := Telling.rendered s _ _
    refine (hfirst.preceded hcleared).append (ih ?_ ?_)
    · exact fun r' hmem => hmodules r' (List.mem_cons_of_mem r hmem)
    · exact fun use hmem => hallowed use (List.mem_append_right _ hmem)

end

end Session

end AssetPipeline
