/-
AssetPipeline/Proofs/Session/Rendering.lean

Rendering is making a template and evaluating it once.

A render reads the clock, and it has the last word in the log.  In everything else it is the making
of a template and one evaluation of it: with the same outcome, and with the same effects
(`Accompanies`).  Inside the evaluation the clock shows something else then, which is seen in
durations only, and as renders do not stop for what a bound on their depth has to say, it makes no
difference which bounds are taken.

Renders see to it that evaluations have variables, be it none.  What is done where an evaluation
starts without (`evaluateWatched`) is never done in a render, nor in the renders that an evaluation
starts which has none itself.

Main statements: `accompanies_succ` for a render and the evaluation in it, `renderWatched_eq` for
variables, and `render_is_evaluation` for both.
-/
import AssetPipeline.Proofs.Session.Accounting
import AssetPipeline.Proofs.Session.Nesting
import AssetPipeline.Proofs.Session.Untimed

namespace AssetPipeline

/-- What a render of a file by an engine may write down about itself, by the way in which it has
ended. -/
inductive Event.Concludes (engine location : String) : Except Halt Payload → Event → Prop
  | returned (result : Payload) (elapsed : Duration) :
      Concludes engine location (.ok result) (.rendered engine location elapsed)
  | failed {fault : Fault} (elapsed : Duration) : fault.isInterruption = false →
      Concludes engine location (.error (.fault fault))
        (.renderFailed engine location elapsed fault)

namespace Session

variable {engines : Nat} {engine : String} {file : Traced File} {data : Payload} {s : Session}

/-! ### The end of a render -/

/-- The end of a render changes nothing but the clock and the log, and writes down no more than how
it went. -/
theorem run_finishRender_own (engine : String) (file : File) (start : Float)
    (out : Except Halt Payload) (s : Session) :
    ∃ (clock : Clock) (own : Option Event), (finishRender engine (some file) start out).run s =
        (out, { s with clock := clock, log := s.log ++ own.toList }) ∧
      ∀ e ∈ own, Event.Concludes engine file.location out e := by
  have hnone : s = { s with clock := s.clock, log := s.log ++ (none : Option Event).toList } := by
    rw [Option.toList_none, List.append_nil]
  rcases out with (fault | _) | result
  · rcases h : fault.isInterruption with _ | _
    · refine ⟨s.clock.advance, some (.renderFailed engine file.location
        (.between start s.clock.current) fault), ?_, ?_⟩
      · rw [finishRender, h]
        rfl
      · rintro e ⟨⟩
        exact .failed _ h
    · refine ⟨s.clock, none, ?_, by simp⟩
      rw [finishRender, h, ← hnone]
      rfl
  · refine ⟨s.clock, none, ?_, by simp⟩
    rw [finishRender, ← hnone]
    rfl
  · refine ⟨s.clock.advance, some (.rendered engine file.location
      (.between start s.clock.current)), rfl, ?_⟩
    rintro e ⟨⟩
    exact .returned result _

/-! ### Renders and evaluations -/

/-- Make a template for a file, and evaluate it once. -/
def createAndEvaluate (depth engines : Nat) (engine : String) (file : Traced File) (data : Payload)
    (context : Json) (bindings : Option Bindings) : Run Payload := do
  let t ← createTemplate engines engine (some file) data none none
  evaluate depth t context bindings

/-- A render of a file by an engine comes to what an evaluation comes to, apart from time, and has
the last word in the log. -/
structure Accompanies (s : Session) (engine location : String)
    (rendered evaluated : Except Halt Payload × Session) : Prop where
  outcome : rendered.1 = evaluated.1
  /-- Modules, stores, payloads and all the rest are the same. -/
  rest : ∃ clock log, rendered.2 = { evaluated.2 with clock := clock, log := log }
  engines : rendered.2.engines = s.engines ∧ evaluated.2.engines = s.engines
  log : ∃ (written written' : List Event) (own : Option Event),
    evaluated.2.log = s.log ++ written ∧ rendered.2.log = s.log ++ written' ++ own.toList ∧
      written.map Event.untimed = written'.map Event.untimed ∧
      ∀ e ∈ own, Event.Concludes engine location rendered.1 e

theorem engines_render (depth engines : Nat) (engine : String) (file : Traced File)
    (data : Payload) (context : Json) (bindings : Option Bindings) (s : Session) :
    ((render depth engines engine (some file) data context bindings).run s).2.engines =
      s.engines :=
  OverlooksRenders.keeps_render (R := SameEngines) depth engines engine (some file) data context
    bindings s

theorem engines_createAndEvaluate (depth engines : Nat) (engine : String) (file : Traced File)
    (data : Payload) (context : Json) (bindings : Option Bindings) (s : Session) :
    ((createAndEvaluate depth engines engine file data context bindings).run s).2.engines =
      s.engines := by
  have hkeeps : Keeps SameEngines
      (createAndEvaluate depth engines engine file data context bindings) :=
    (keeps_createTemplate _ _ _ _ _ _).bind fun t =>
      OverlooksRenders.keeps_evaluate depth t context bindings
  exact hkeeps s

/-- A render measures an evaluation, with variables, of the template that it makes. -/
theorem run_render_succ {t : Template} {created : Session}
    (h : (createTemplate engines engine (some file) data none none).run s = (.ok t, created))
    (depth : Nat) (context : Json) (bindings : Option Bindings) :
    (render (depth + 1) engines engine (some file) data context bindings).run s =
      let ended := (evaluate depth t context (some (bindings.getD []))).run
        { created with clock := created.clock.advance }
      (finishRender engine (some file.value) created.clock.current ended.1).run ended.2 := by
  rw [render_succ, run_bind_ok h, measured, run_bind_ok (run_readClock created),
    run_bind_ok (run_observe _ _)]
  rfl

/-- Where no template is made, a render has come to nothing else. -/
theorem accompanies_self {out : Except Halt Payload} {after : Session} {written : List Event}
    (hengines : after.engines = s.engines) (hlog : after.log = s.log ++ written) :
    Accompanies s engine file.value.location (out, after) (out, after) where
  outcome := rfl
  rest := ⟨after.clock, after.log, rfl⟩
  engines := ⟨hengines, hengines⟩
  log := by
    refine ⟨written, written, none, hlog, ?_, rfl, by simp⟩
    rw [Option.toList_none, List.append_nil]
    exact hlog

/-- **A render does what the evaluation in it does.** -/
theorem accompanies_succ (s : Session) (depth engines : Nat) (engine : String)
    (file : Traced File) (data : Payload) (context : Json) (bindings : Option Bindings) :
    Accompanies s engine file.value.location
      ((render (depth + 1) engines engine (some file) data context bindings).run s)
      ((createAndEvaluate depth engines engine file data context (some (bindings.getD []))).run
        s) := by
  have hengines := And.intro
    (engines_render (depth + 1) engines engine file data context bindings s)
    (engines_createAndEvaluate depth engines engine file data context (some (bindings.getD [])) s)
  -- the same template is made, and nothing is written down yet that would differ
  have hcreated : SameButTime s.log
      ((createTemplate engines engine (some file) data none none).run s).2
      ((createTemplate engines engine (some file) data none none).run s).2 :=
    (UntimedRuns.createTemplate engines engine (some file) data none none s s
      (sameButTime_start s s.clock)).2
  rcases hcreate : (createTemplate engines engine (some file) data none none).run s with
    ⟨halt | t, created⟩
  · have hrendered : (render (depth + 1) engines engine (some file) data context bindings).run s =
        (.error halt, created) := run_bind_error hcreate
    have hevaluated : (createAndEvaluate depth engines engine file data context
        (some (bindings.getD []))).run s = (.error halt, created) := run_bind_error hcreate
    rw [hcreate] at hcreated
    obtain ⟨written, -, hlog, -, -⟩ := hcreated.log
    rw [hrendered, hevaluated] at hengines ⊢
    exact accompanies_self hengines.1 hlog
  · have hevaluated : (createAndEvaluate depth engines engine file data context
        (some (bindings.getD []))).run s =
        (evaluate depth t context (some (bindings.getD []))).run created := run_bind_ok hcreate
    rw [hcreate] at hcreated
    have hadvanced : SameButTime s.log created { created with clock := created.clock.advance } :=
      hcreated.retimed created.clock created.clock.advance
    obtain ⟨hout, hafter⟩ := agree_evaluate_untimed hadvanced depth t context
      (some (bindings.getD []))
    have hrendered := run_render_succ hcreate depth context bindings
    obtain ⟨clock, own, hfinish, hown⟩ := run_finishRender_own engine file.value
      created.clock.current
      ((evaluate depth t context (some (bindings.getD []))).run
        { created with clock := created.clock.advance }).1
      ((evaluate depth t context (some (bindings.getD []))).run
        { created with clock := created.clock.advance }).2
    simp only [hfinish] at hrendered
    rw [hrendered, hevaluated] at hengines ⊢
    obtain ⟨written, written', hlog, hlog', hsame⟩ := hafter.log
    obtain ⟨clock', log, hrest⟩ := hafter.rest
    refine ⟨hout.symm, ?_, hengines, written, written', own, hlog, ?_, hsame, hown⟩
    · rw [hrest]
      exact ⟨_, _, rfl⟩
    · rw [← hlog']

/-! ### Variables -/

section
variable (watch : Call → Run Unit)

/-- Evaluate as a class does, and wherever an evaluation starts on the way up, do something with what
it is given. -/
def evaluateWatched (call : Call) (nested : Nat → String → Payload → Run Payload) :
    EngineClass → Run Payload
  | .root => evaluateAs call nested .root
  | .template => do
    watch call
    evaluateAs call nested .template
  | .derived own base =>
    match own.body with
    | some actions => do
      watch call
      runBody call (evaluateWatched call nested base) nested actions
    | none => evaluateWatched call nested base

/-- Render, with all evaluations being watched. -/
def renderWatched : (depth engines : Nat) → (engine : String) → Option (Traced File) → Payload →
    Json → Option Bindings → Run Payload
  | 0, _, _, _, _, _, _ => throw .tooDeep
  | depth + 1, engines, engine, file, data, context, bindings => do
    let t ← createTemplate engines engine file data none none
    let nested := fun engines engine data =>
      renderWatched depth engines engine t.file data context (some (bindings.getD []))
    measured engine (file.map Traced.value)
      (evaluateWatched watch ⟨t, context, some (bindings.getD [])⟩ nested t.cls)

variable {watch}

/-- Where nothing is done with what an evaluation is given, it is the evaluation. -/
theorem evaluateWatched_eq {call : Call} {nested : Nat → String → Payload → Run Payload}
    (h : watch call = pure ()) (cls : EngineClass) :
    evaluateWatched watch call nested cls = evaluateAs call nested cls := by
  induction cls with
  | root => rfl
  | template => rw [evaluateWatched, h, pure_bind]
  | derived own base ih =>
    rw [evaluateWatched, evaluateAs, h, ih]
    cases own.body with
    | none => rfl
    | some actions => exact pure_bind _ _

/-- No engine evaluates unwatched. -/
theorem evaluateWatched_of_raise {call : Call} {nested : Nat → String → Payload → Run Payload}
    {fault : Fault} (h : watch call = raise fault) {cls : EngineClass}
    (hcls : cls.isEngine = true) : evaluateWatched watch call nested cls = raise fault := by
  induction cls with
  | root => cases hcls
  | template =>
    rw [evaluateWatched, h]
    rfl
  | derived own base ih =>
    rw [evaluateWatched, h]
    cases own.body with
    | none => exact ih hcls
    | some actions => rfl

/-- **No evaluation in a render is without variables**, nor has it any others. -/
theorem renderWatched_eq {bindings : Option Bindings}
    (h : ∀ call, call.bindings = some (bindings.getD []) → watch call = pure ())
    (depth engines : Nat) (engine : String) (file : Option (Traced File)) (data : Payload)
    (context : Json) :
    renderWatched watch depth engines engine file data context bindings =
      render depth engines engine file data context bindings := by
  -- a render inside is given the variables that its evaluation has
  induction depth generalizing engines engine file data bindings with
  | zero => rfl
  | succ depth ih =>
    rw [renderWatched, render_succ]
    refine bind_congr fun t => ?_
    have hnested : (fun engines engine data =>
        renderWatched watch depth engines engine t.file data context (some (bindings.getD []))) =
        fun engines engine data =>
          render depth engines engine t.file data context (some (bindings.getD [])) := by
      funext engines engine data
      exact @ih (some (bindings.getD [])) h engines engine t.file data
    show measured engine (file.map Traced.value) (evaluateWatched watch
      ⟨t, context, some (bindings.getD [])⟩ (fun engines engine data =>
        renderWatched watch depth engines engine t.file data context (some (bindings.getD [])))
      t.cls) = _
    rw [evaluateWatched_eq (h _ rfl), hnested]
    rfl

end

/-! ### Rendering as evaluation -/

/-- **Rendering is making a template and evaluating it once.**  A render comes to an end if this
does, whatever engines do and however deep they nest renders.  Then both have the same outcome and
leave the same session, registries as they were, apart from the clock and from what they have
written down: the same, apart from durations, and after that the render may say how it went.  All
evaluations in the render are given the variables of the render, or none; so are those in the
renders that an evaluation starts, also if it has been given nothing itself. -/
theorem render_is_evaluation (s : Session) (engines : Nat) (engine : String) (file : Traced File)
    (data : Payload) (context : Json) (bindings : Option Bindings) :
    let rendered (depth : Nat) :=
      (render depth engines engine (some file) data context bindings).run s
    let evaluated (depth : Nat) :=
      (createAndEvaluate depth engines engine file data context (some (bindings.getD []))).run s
    ((∃ depth, (rendered depth).1 ≠ .error .tooDeep) ↔
      ∃ depth, (evaluated depth).1 ≠ .error .tooDeep) ∧
    (∀ depth depth', (rendered depth).1 ≠ .error .tooDeep →
      (evaluated depth').1 ≠ .error .tooDeep →
      Accompanies s engine file.value.location (rendered depth) (evaluated depth')) ∧
    ∀ watch : Call → Run Unit,
      (∀ call, call.bindings = some (bindings.getD []) → watch call = pure ()) →
      ∀ depth,
        renderWatched watch depth engines engine (some file) data context bindings =
          render depth engines engine (some file) data context bindings ∧
        ∀ t : Template,
          evaluateAs ⟨t, context, bindings⟩ (fun engines engine data =>
              renderWatched watch depth engines engine t.file data context bindings) t.cls =
            evaluate depth t context bindings := by
  intro rendered evaluated
  have hsucc : ∀ depth, Accompanies s engine file.value.location (rendered (depth + 1))
      (evaluated depth) := fun depth => accompanies_succ s depth engines engine file data context
    bindings
  refine ⟨⟨?_, ?_⟩, ?_, ?_⟩
  · rintro ⟨depth, hends⟩
    cases depth with
    | zero => exact absurd rfl hends
    | succ depth => exact ⟨depth, (hsucc depth).outcome ▸ hends⟩
  · rintro ⟨depth, hends⟩
    exact ⟨depth + 1, (hsucc depth).outcome ▸ hends⟩
  · intro depth depth' hends hends'
    -- both runs are those with the greater one of the bounds
    have hrendered : rendered (max depth depth' + 1) = rendered depth :=
      (goesAsDeep_render (by omega) engines engine (some file) data context bindings
        s).resolve_left hends
    have hdeep : GoesAsDeep
        (createAndEvaluate depth' engines engine file data context (some (bindings.getD [])))
        (createAndEvaluate (max depth depth') engines engine file data context
          (some (bindings.getD []))) :=
      .bind (.refl _) fun t => goesAsDeep_evaluate (by omega) t context _
    have hevaluated : evaluated (max depth depth') = evaluated depth' :=
      (hdeep s).resolve_left hends'
    rw [← hrendered, ← hevaluated]
    exact hsucc (max depth depth')
  · intro watch hwatch depth
    refine ⟨renderWatched_eq hwatch depth engines engine (some file) data context, fun t => ?_⟩
    have hnested : (fun engines engine data =>
        renderWatched watch depth engines engine t.file data context bindings) =
        fun engines engine data =>
          render depth engines engine t.file data context bindings := by
      funext engines engine data
      exact renderWatched_eq hwatch depth engines engine t.file data context
    rw [hnested]
    rfl

/-- A page that another one puts into itself fails in a render as it does in an evaluation, though
evaluations without variables would be stopped. -/
theorem failing_page_as_evaluated :
    let file : Traced File := ⟨.text "page.md", .shared⟩
    let data : Payload := .text ⟨"page", .shared⟩
    let rendered := (render 3 1 "outer" (some file) data .null none).run nestedSession
    let evaluated := (createAndEvaluate 7 1 "outer" file data .null (some [])).run nestedSession
    let watch : Call → Run Unit := fun call =>
      if call.bindings.isNone then raise .noFile else pure ()
    rendered.1 = .error (.fault (.absentKey "title")) ∧
      Accompanies nestedSession "outer" "page.md" rendered evaluated ∧
      (renderWatched watch 3 1 "outer" (some file) data .null none).run nestedSession =
        rendered ∧
      ∃ cls, (nestedSession.registry 1).get? "outer" = some cls ∧
        ∀ call nested, call.bindings = none →
          evaluateWatched watch call nested cls = raise .noFile := by
  intro file data rendered evaluated watch
  have hfails : rendered.1 = .error (.fault (.absentKey "title")) := by decide +kernel
  have hfails' : evaluated.1 = .error (.fault (.absentKey "title")) := by decide +kernel
  obtain ⟨-, haccompanies, hwatched⟩ :=
    render_is_evaluation nestedSession 1 "outer" file data .null none
  refine ⟨hfails, haccompanies 3 7 ?_ ?_, ?_, _, rfl, ?_⟩
  · show rendered.1 ≠ _
    rw [hfails]
    simp
  · show evaluated.1 ≠ _
    rw [hfails']
    simp
  · have hsilent : ∀ call : Call, call.bindings = some [] → watch call = pure () := by
      intro call hcall
      simp [watch, hcall]
    rw [(hwatched watch hsilent 3).1]
  · intro call nested hnone
    exact evaluateWatched_of_raise (by simp [watch, hnone]) (sound_nestedSession 1 "outer" _ rfl)

end Session

end AssetPipeline
