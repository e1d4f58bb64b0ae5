/-
AssetPipeline/Proofs/Session/Blame.lean

Who is blamed where no class says how to evaluate.

Evaluation goes up the chain of classes, from one body to the next that one calls, and into the
renders that bodies start.  On such a way it may arrive at the root of all engines, which does not
say how to evaluate (`Arrives`).  What it arrives with is the template it was started for, whichever
classes it has come through; so it is the class of that template that is blamed, and inside renders
that of the innermost one.  No render on the way holds the fault up: each writes it down and passes
it on, and nothing that was done before is taken back (`run_of_arrives`).

There is no other way: where evaluation does not arrive at the root, it makes no difference what
would be done there (`arrives_or_indifferent`).

Main statement: `missing_evaluate_blames_own_class`.
-/
import AssetPipeline.Proofs.Session.Accounting
import AssetPipeline.Proofs.Session.Manner
import Mathlib.Data.List.Forall2

namespace AssetPipeline.Session

variable {depth : Nat} {call : Call} {own : Traits} {base cls : EngineClass}
  {action : Action} {actions rest : List Action}

/-! ### What evaluation is made of -/

/-- A part of an evaluation. -/
inductive Work where
  /-- Evaluating as a class does. -/
  | evaluation (call : Call) (cls : EngineClass)
  /-- What is left of a body, in a class with this one above. -/
  | body (call : Call) (base : EngineClass) (actions : List Action)
  | rendering (engines : Nat) (engine : String) (file : Option (Traced File)) (data : Payload)
    (context : Json) (bindings : Option Bindings)

namespace Work

/-- The template that is evaluated, if there is one yet. -/
def template? : Work → Option Template
  | .evaluation call _ | .body call _ _ => some call.template
  | .rendering .. => none

/-- Do this part in some manner. -/
def runIn (m : Manner) (depth : Nat) : Work → Run Payload
  | .evaluation call cls => evaluateAsIn m call (nestedIn m depth call) cls
  | .body call base actions =>
    runBodyIn m call (evaluateAsIn m call (nestedIn m depth call) base) (nestedIn m depth call)
      actions
  | .rendering engines engine file data context bindings =>
    renderIn m depth engines engine file data context bindings

/-- Do this part. -/
def run (depth : Nat) : Work → Run Payload
  | .evaluation call cls =>
    evaluateAs call (fun engines engine data =>
      render depth engines engine call.template.file data call.context call.bindings) cls
  | .body call base actions =>
    let nested := fun engines engine data =>
      render depth engines engine call.template.file data call.context call.bindings
    runBody call (evaluateAs call nested base) nested actions
  | .rendering engines engine file data context bindings =>
    render depth engines engine file data context bindings

theorem runIn_own (depth : Nat) (work : Work) : work.runIn .own depth = work.run depth := by
  cases work with
  | evaluation call cls => rw [runIn, evaluateAsIn_own, nestedIn_own, run]
  | body call base actions => rw [runIn, runBodyIn_own, evaluateAsIn_own, nestedIn_own, run]
  | rendering engines engine file data context bindings => rw [runIn, renderIn_own, run]

end Work

/-- A render that has started. -/
structure Started where
  engine : String
  file : Option File
  start : Float
  /-- The template that it evaluates. -/
  template : Template

/-- The render has written down that it failed with this fault. -/
def Started.Reports (fault : Fault) (r : Started) (e : Event) : Prop :=
  ∃ file stop, r.file = some file ∧
    e = .renderFailed r.engine file.location (.between r.start stop) fault

/-- Do an action of a body, in a class with this one above. -/
def act (depth : Nat) (call : Call) (base : EngineClass) : Action → Run Unit :=
  doAction call ((Work.evaluation call base).run depth) fun engines engine data =>
    render depth engines engine call.template.file data call.context call.bindings

/-! ### Arriving at the root -/

/-- From this session, the work arrives at the root of all engines: inside these renders, the
innermost first, evaluating this template, in that session. -/
inductive Arrives : Nat → Work → Session → List Started → Template → Session → Prop
  | root {depth : Nat} {call : Call} {s : Session} :
    Arrives depth (.evaluation call .template) s [] call.template s
  /-- The class does not say how, so it is as in the class above. -/
  | inherited {depth : Nat} {call : Call} {own : Traits} {base : EngineClass} {s there : Session}
    {renders : List Started} {t : Template} :
    own.body = none → Arrives depth (.evaluation call base) s renders t there →
      Arrives depth (.evaluation call (.derived own base)) s renders t there
  /-- The class says how. -/
  | body {depth : Nat} {call : Call} {own : Traits} {base : EngineClass} {actions : List Action}
    {s there : Session} {renders : List Started} {t : Template} :
    own.body = some actions → Arrives depth (.body call base actions) s renders t there →
      Arrives depth (.evaluation call (.derived own base)) s renders t there
  /-- An action is done, and there is more to do. -/
  | done {depth : Nat} {call : Call} {base : EngineClass} {action : Action} {rest : List Action}
    {s after there : Session} {renders : List Started} {t : Template} :
    (∀ data, action ≠ .finish data) → (act depth call base action).run s = (.ok (), after) →
      Arrives depth (.body call base rest) after renders t there →
        Arrives depth (.body call base (action :: rest)) s renders t there
  /-- The body goes on in the class above. -/
  | callBase {depth : Nat} {call : Call} {base : EngineClass} {rest : List Action}
    {s there : Session} {renders : List Started} {t : Template} :
    Arrives depth (.evaluation call base) s renders t there →
      Arrives depth (.body call base (.callBase :: rest)) s renders t there
  /-- The body goes on in a render. -/
  | render {depth : Nat} {call : Call} {base : EngineClass} {engines engine : String}
    {data : PayloadValue} {rest : List Action} {s found written there : Session} {id : Nat}
    {payload : Payload} {renders : List Started} {t : Template} :
    (enginesAt engines).run s = (.ok id, found) →
      (evalPayload data).run found = (.ok payload, written) →
      Arrives depth (.rendering id engine call.template.file payload call.context call.bindings)
        written renders t there →
        Arrives depth (.body call base (.render engines engine data :: rest)) s renders t there
  /-- The render has made its template, and evaluates it. -/
  | started {depth engines : Nat} {engine : String} {file : Option (Traced File)} {data : Payload}
    {context : Json} {bindings : Option Bindings} {s created there : Session}
    {renders : List Started} {t made : Template} :
    (createTemplate engines engine file data none none).run s = (.ok made, created) →
      Arrives depth (.evaluation ⟨made, context, some (bindings.getD [])⟩ made.cls)
        { created with clock := created.clock.advance } renders t there →
        Arrives (depth + 1) (.rendering engines engine file data context bindings) s
          (renders ++ [⟨engine, file.map Traced.value, created.clock.current, made⟩]) t there

/-- Every class of the chain leaves it to the class above, or calls that one first of all. -/
def PassesOn : EngineClass → Prop
  | .root => False
  | .template => True
  | .derived own base =>
    (own.body = none ∨ ∃ rest, own.body = some (.callBase :: rest)) ∧ PassesOn base

/-- A chain in which all classes do so arrives at the root, however long it is. -/
theorem arrives_of_passesOn (depth : Nat) (call : Call) (s : Session) (h : PassesOn cls) :
    Arrives depth (.evaluation call cls) s [] call.template s := by
  induction cls with
  | root => cases h
  | template => exact .root
  | derived own base ih =>
    obtain ⟨hnone | ⟨rest, hbody⟩, hbase⟩ := h
    · exact .inherited hnone (ih hbase)
    · exact .body hbody (.callBase (ih hbase))

/-- What arrives at the root is the template of the innermost render, or without renders the one
that is evaluated. -/
theorem template_of_arrives {work : Work} {s there : Session} {renders : List Started}
    {t : Template} (h : Arrives depth work s renders t there) :
    (renders.head?.map Started.template).or work.template? = some t := by
  induction h with
  | root => rfl
  | inherited _ _ ih => exact ih
  | body _ _ ih => exact ih
  | done _ _ _ ih => exact ih
  | callBase _ ih => exact ih
  | @render _ _ _ _ _ _ _ _ _ _ _ _ _ renders t _ _ _ ih =>
    cases renders with
    | nil => cases ih
    | cons r outer => exact ih
  | @started _ _ _ _ _ _ _ _ _ _ renders t made _ _ ih =>
    cases renders with
    | nil => exact ih
    | cons r outer => exact ih

/-! ### What comes of it -/

theorem runBody_cons {run : Run Payload} {nested : Nat → String → Payload → Run Payload}
    (rest : List Action) (h : ∀ data, action ≠ .finish data) :
    runBody call run nested (action :: rest) =
      (doAction call run nested action >>= fun _ => runBody call run nested rest) := by
  cases action with
  | finish data => exact absurd rfl (h data)
  | _ => rfl

theorem body_cons (rest : List Action) (h : ∀ data, action ≠ .finish data) :
    (Work.body call base (action :: rest)).run depth =
      (act depth call base action >>= fun _ => (Work.body call base rest).run depth) :=
  runBody_cons rest h

/-- A render that fails writes that down. -/
theorem run_finishRender_failed (engine : String) (file : File) (start : Float) {fault : Fault}
    (h : fault.isInterruption = false) (s : Session) :
    (finishRender engine (some file) start (.error (.fault fault))).run s =
      (.error (.fault fault), { s with
        clock := s.clock.advance
        log := s.log ++
          [.renderFailed engine file.location (.between start s.clock.current) fault] }) := by
  rw [finishRender, h]
  rfl

/-- **What arrives at the root comes back as a fault** with the class of the template, through all
renders on the way; they write it down, and nothing else is changed any more. -/
theorem run_of_arrives {work : Work} {s there : Session} {renders : List Started} {t : Template}
    (h : Arrives depth work s renders t there) (hfiles : ∀ r ∈ renders, r.file.isSome = true) :
    ∃ clock written,
      (work.run depth).run s = (.error (.fault (.evaluateMissing t.cls.name)),
        { there with clock := clock, log := there.log ++ written }) ∧
      List.Forall₂ (Started.Reports (.evaluateMissing t.cls.name)) renders written := by
  induction h with
  | @root _ call s =>
    refine ⟨s.clock, [], ?_, .nil⟩
    rw [List.append_nil]
    rfl
  | inherited hnone _ ih =>
    rw [Work.run, evaluateAs, hnone]
    exact ih hfiles
  | body hbody _ ih =>
    rw [Work.run, evaluateAs, hbody]
    exact ih hfiles
  | done hno hdone _ ih =>
    rw [body_cons _ hno, run_bind_ok hdone]
    exact ih hfiles
  | callBase _ ih =>
    obtain ⟨clock, written, hrun, hreports⟩ := ih hfiles
    refine ⟨clock, written, ?_, hreports⟩
    rw [body_cons _ (by simp)]
    exact run_bind_error (run_bind_error hrun)
  | render hengines hpayload _ ih =>
    obtain ⟨clock, written, hrun, hreports⟩ := ih hfiles
    refine ⟨clock, written, ?_, hreports⟩
    rw [body_cons _ (by simp)]
    refine run_bind_error ?_
    refine (run_bind_ok hengines).trans ?_
    refine (run_bind_ok hpayload).trans ?_
    exact run_bind_error hrun
  | @started depth _ engine file _ context bindings _ created _ renders t made hcreated _ ih =>
    obtain ⟨clock, written, hrun, hreports⟩ :=
      ih fun r hr => hfiles r (List.mem_append_left _ hr)
    obtain ⟨value, hfile⟩ : ∃ value, file.map Traced.value = some value :=
      Option.isSome_iff_exists.1 (hfiles _ List.mem_concat_self)
    refine ⟨clock.advance, written ++ [.renderFailed engine value.location
      (.between created.clock.current clock.current) (.evaluateMissing t.cls.name)], ?_, ?_⟩
    · have hevaluated : (evaluate depth made context (some (bindings.getD []))).run
          { created with clock := created.clock.advance } = _ := hrun
      rw [Work.run, render_succ, run_bind_ok hcreated, measured,
        run_bind_ok (run_readClock created), run_bind_ok (run_observe _ _), hevaluated, hfile,
        run_finishRender_failed _ _ _ rfl, List.append_assoc]
    · exact List.rel_append hreports (.cons ⟨value, _, hfile, rfl⟩ .nil)

/-! ### No other way -/

/-- From this session, the work does not arrive at the root. -/
def MissesRoot (depth : Nat) (work : Work) (s : Session) : Prop :=
  ∀ renders t there, ¬ Arrives depth work s renders t there

/-- From this session, it makes no difference what would be done at the root. -/
def Indifferent {α : Type} (p : Manner → Run α) (s : Session) : Prop :=
  ∀ unsaid, (p { Manner.own with unsaid := unsaid }).run s = (p .own).run s

namespace Indifferent

variable {α β : Type} {s : Session}

theorem of_eq {p : Manner → Run α}
    (h : ∀ unsaid, p { Manner.own with unsaid := unsaid } = p .own) : Indifferent p s :=
  fun unsaid => congrArg (fun q => q.run s) (h unsaid)

theorem bind {p : Manner → Run α} {f : Manner → α → Run β} (hp : Indifferent p s)
    (hf : ∀ a after, (p .own).run s = (.ok a, after) → Indifferent (fun m => f m a) after) :
    Indifferent (fun m => p m >>= f m) s := by
  intro unsaid
  rcases hrun : (p .own).run s with ⟨halt | a, after⟩
  · rw [run_bind_error hrun, run_bind_error ((hp unsaid).trans hrun)]
  · rw [run_bind_ok hrun, run_bind_ok ((hp unsaid).trans hrun)]
    exact hf a after hrun unsaid

theorem measured {engine : String} {file : Option File} {p : Manner → Run Payload}
    (h : Indifferent p { s with clock := s.clock.advance }) :
    Indifferent (fun m => measured engine file (p m)) s := by
  refine .bind (.of_eq fun _ => rfl) fun start after hstart => ?_
  cases hstart
  intro unsaid
  rw [run_bind_ok (run_observe _ _), run_bind_ok (run_observe _ _), h unsaid]

end Indifferent

theorem doActionIn_own_eq_act (action : Action) :
    doActionIn .own call ((Work.evaluation call base).runIn .own depth) (nestedIn .own depth call)
      action = act depth call base action := by
  rw [doActionIn_own, Work.runIn_own, nestedIn_own, act]

/-- An action that neither calls the class above nor renders does the same with or without. -/
theorem doActionIn_unsaid {base base' : Run Payload}
    {nested nested' : Nat → String → Payload → Run Payload} (unsaid : Call → Run Payload)
    (hbase : action ≠ .callBase)
    (hrender : ∀ engines engine data, action ≠ .render engines engine data) :
    doActionIn { Manner.own with unsaid := unsaid } call base nested action =
      doActionIn .own call base' nested' action := by
  cases action with
  | callBase => exact absurd rfl hbase
  | render engines engine data => exact absurd rfl (hrender engines engine data)
  | _ => rfl

section
variable
  (hbase : ∀ s, MissesRoot depth (.evaluation call base) s →
    Indifferent (fun m => (Work.evaluation call base).runIn m depth) s)
  (hnested : ∀ id engine payload s,
    MissesRoot depth
      (.rendering id engine call.template.file payload call.context call.bindings) s →
    Indifferent (fun m => nestedIn m depth call id engine payload) s)
include hbase hnested

theorem indifferent_action {s : Session}
    (h : MissesRoot depth (.body call base (action :: rest)) s) :
    Indifferent (fun m => doActionIn m call ((Work.evaluation call base).runIn m depth)
      (nestedIn m depth call) action) s := by
  cases action with
  | callBase =>
    refine .bind (hbase s fun renders t there hbase => h renders t there (.callBase hbase)) ?_
    exact fun _ _ _ => .of_eq fun _ => rfl
  | render engines engine data =>
    refine .bind (.of_eq fun _ => rfl) fun id found hengines => ?_
    refine .bind (.of_eq fun _ => rfl) fun payload written hpayload => ?_
    refine .bind (hnested id engine payload written fun renders t there hrender => ?_) ?_
    · exact h renders t there (.render hengines hpayload hrender)
    · exact fun _ _ _ => .of_eq fun _ => rfl
  | _ => exact .of_eq fun unsaid => doActionIn_unsaid unsaid (by simp) (by simp)

theorem indifferent_body (actions : List Action) (s : Session)
    (h : MissesRoot depth (.body call base actions) s) :
    Indifferent (fun m => (Work.body call base actions).runIn m depth) s := by
  induction actions generalizing s with
  | nil =>
    simp only [Work.runIn, runBodyIn]
    exact .of_eq fun _ => rfl
  | cons action rest ih =>
    by_cases hfinish : ∃ data, action = .finish data
    · obtain ⟨data, rfl⟩ := hfinish
      simp only [Work.runIn, runBodyIn]
      exact .of_eq fun _ => rfl
    · have hgoes : ∀ data, action ≠ .finish data := not_exists.1 hfinish
      simp only [Work.runIn, runBodyIn_cons _ rest hgoes]
      refine .bind (indifferent_action hbase hnested h) fun _ after hdone => ?_
      refine ih after fun renders t there hrest => h renders t there (.done hgoes ?_ hrest)
      rw [← doActionIn_own_eq_act]
      exact hdone

end

/-- In a chain of classes, as evaluation goes up. -/
theorem indifferent_evaluation
    (hnested : ∀ id engine payload s,
      MissesRoot depth
        (.rendering id engine call.template.file payload call.context call.bindings) s →
      Indifferent (fun m => nestedIn m depth call id engine payload) s)
    (cls : EngineClass) (s : Session) (h : MissesRoot depth (.evaluation call cls) s) :
    Indifferent (fun m => (Work.evaluation call cls).runIn m depth) s := by
  induction cls generalizing s with
  | root =>
    simp only [Work.runIn, evaluateAsIn, evaluateAs]
    exact .of_eq fun _ => rfl
  | template => exact absurd .root (h _ _ _)
  | derived own base ih =>
    rcases hbody : own.body with _ | actions
    · simp only [Work.runIn, evaluateAsIn, hbody]
      exact ih s fun renders t there hbase => h renders t there (.inherited hbody hbase)
    · simp only [Work.runIn, evaluateAsIn, hbody]
      refine indifferent_body ih hnested actions s fun renders t there hactions => ?_
      exact h renders t there (.body hbody hactions)

/-- Through nested renders, as deep as they may go. -/
theorem indifferent_rendering (depth engines : Nat) (engine : String)
    (file : Option (Traced File)) (data : Payload) (context : Json) (bindings : Option Bindings)
    (s : Session) (h : MissesRoot depth (.rendering engines engine file data context bindings) s) :
    Indifferent (fun m => renderIn m depth engines engine file data context bindings) s := by
  induction depth generalizing engines engine file data context bindings s with
  | zero => exact .of_eq fun _ => rfl
  | succ depth ih =>
    simp only [renderIn_succ]
    refine .bind (.of_eq fun _ => rfl) fun made created hcreated => .measured ?_
    refine indifferent_evaluation ?_ made.cls _ fun renders t there hevaluated => ?_
    · exact fun id engine payload s hmisses => ih id engine _ payload _ _ s hmisses
    · exact h _ t there (.started hcreated hevaluated)

/-- **Where work does not arrive at the root, it makes no difference what would be done there.** -/
theorem indifferent_of_missesRoot {work : Work} {s : Session} (h : MissesRoot depth work s) :
    Indifferent (fun m => work.runIn m depth) s := by
  have hnested : ∀ (call : Call) id engine payload s,
      MissesRoot depth
        (.rendering id engine call.template.file payload call.context call.bindings) s →
      Indifferent (fun m => nestedIn m depth call id engine payload) s :=
    fun call id engine payload s => indifferent_rendering depth id engine _ payload _ _ s
  cases work with
  | evaluation call cls => exact indifferent_evaluation (hnested call) cls s h
  | body call base actions =>
    exact indifferent_body (indifferent_evaluation (hnested call) base) (hnested call) actions s h
  | rendering engines engine file data context bindings =>
    exact indifferent_rendering depth engines engine file data context bindings s h

/-! ### Blame -/

/-- **A missing evaluation is blamed on the class of the template**, whichever classes its
evaluation has come through before it arrived at the root, and inside renders on that of the
innermost template.  All renders on the way fail with this one fault and write that down, and what
was done before stays done.  Otherwise it makes no difference what would be done at the root. -/
theorem missing_evaluate_blames_own_class (depth : Nat) (work : Work) (s : Session) :
    (∀ renders t there, Arrives depth work s renders t there →
      (∀ r ∈ renders, r.file.isSome = true) →
      let fault := Fault.evaluateMissing t.cls.name
      (renders.head?.map Started.template).or work.template? = some t ∧
        (∃ clock written,
          (work.run depth).run s =
            (.error (.fault fault), { there with
              clock := clock, log := there.log ++ written }) ∧
          List.Forall₂ (Started.Reports fault) renders written) ∧
        fault.message = t.cls.name ++ "#evaluate() is not implemented." ∧
        fault.contract? = some (.object [("error", .str "EVALUATE_NOT_IMPLEMENTED"),
          ("engine", .str t.cls.name), ("message", .str fault.message)])) ∧
    ((∀ renders t there, ¬ Arrives depth work s renders t there) →
      ∀ unsaid, (work.runIn { Manner.own with unsaid := unsaid } depth).run s =
        (work.run depth).run s) := by
  refine ⟨?_, ?_⟩
  · intro renders t there harrives hfiles fault
    exact ⟨template_of_arrives harrives, run_of_arrives harrives hfiles, rfl, rfl⟩
  · intro hmisses unsaid
    rw [← Work.runIn_own]
    exact indifferent_of_missesRoot hmisses unsaid

/-- A session with an engine whose evaluation goes through two classes to the root, and another one
that renders by it. -/
def unsaidSession : Session :=
  ({ initial Dict.empty .still with
      handles := Dict.ofList [("engines", .engines 1)] }.entered 1 "inner"
      (.derived ⟨3, "Inner", none, none, some [.callBase]⟩
        (.derived ⟨2, "Shelf", none, none, some [.setLibrary "shelf" (.token "books"), .callBase]⟩
          (.derived ⟨1, "Bare", none, none, none⟩ .template))) []).entered
    1 "outer"
      (.derived ⟨4, "Outer", none, none,
        some [.render "engines" "inner" (.text ⟨"part", .shared⟩)]⟩ .template) []

/-- The inner engine is blamed for it, not the classes above, nor the outer engine; both renders
fail with that, and what is on the shelf stays there. -/
theorem inner_engine_blamed :
    ∃ renders t there,
      Arrives 2 (.rendering 1 "outer" (some ⟨.text "page.md", .shared⟩)
        (.text ⟨"page", .shared⟩) .null none) unsaidSession renders t there ∧
      renders.map Started.engine = ["inner", "outer"] ∧
      ∃ clock written,
        (render 2 1 "outer" (some ⟨.text "page.md", .shared⟩) (.text ⟨"page", .shared⟩) .null
          none).run unsaidSession =
            (.error (.fault (.evaluateMissing "Inner")),
              { there with clock := clock, log := there.log ++ written }) ∧
        List.Forall₂ (Started.Reports (.evaluateMissing "Inner")) renders written ∧
        (there.contents .shared).get? "shelf" = some (.token "books") := by
  have hbare : PassesOn (.derived ⟨1, "Bare", none, none, none⟩ .template) := ⟨.inl rfl, trivial⟩
  have harrives : Arrives 2 (.rendering 1 "outer" (some ⟨.text "page.md", .shared⟩)
      (.text ⟨"page", .shared⟩) .null none) unsaidSession _ _ _ :=
    .started rfl (.body rfl (.render rfl rfl (.started rfl
      -- in the inner render, by way of both classes with a body
      (.body rfl (.callBase
        (.body rfl (.done (by simp) rfl
          (.callBase (arrives_of_passesOn _ _ _ hbare)))))))))
  obtain ⟨-, ⟨clock, written, hrun, hreports⟩, -⟩ :=
    (missing_evaluate_blames_own_class 2 _ unsaidSession).1 _ _ _ harrives (by simp)
  exact ⟨_, _, _, harrives, rfl, clock, written, hrun, hreports, rfl⟩

end AssetPipeline.Session
