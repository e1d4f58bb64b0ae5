/-
AssetPipeline/Proofs/Session/Accounting.lean

The clock and the log account for every render.

Which renders a program starts is read off its run, action by action (`actionTrees`,
`bodyTrees`, `classTrees`, `renderTree`).  What the program does to the clock and to the
log is compared with that (`Books`): it takes as many readings as the trees have, in their
order, and writes down about engines what they write down.

A program is accounted for if its books are right, if it ends as the last of its renders
does that did not return, and if its renders are lawful (`Accounted`).  Quiet programs are
accounted for by no renders, and one program after another by those of both.  So an
evaluation is accounted for if the renders that it may start are, and a render by induction
on how deep it may nest.

Main statements: `accounted_evaluateAs` for evaluations, `accounted_render` for renders, and
`render_accounts`, which reads off what one render of a session comes to.
-/
import AssetPipeline.Proofs.Session.Engines
import AssetPipeline.Proofs.Session.RenderTree

namespace AssetPipeline

open RenderTree

/-- The reading of a clock with this number. -/
def Clock.shown (c : Clock) (i : Nat) : Float := { c with taken := i }.current

namespace Session

variable {α β : Type} {s after : Session} {trees trees' : List RenderTree}

/-- An engine goes by this name in a registry. -/
def Knows (s : Session) (engines : Nat) (engine : String) : Prop :=
  ∃ c, (s.registry engines).get? engine = some c ∧ c.isEngine = true

/-! ### The renders of a run -/

/-- A program that starts no renders. -/
def noTrees : Session → List RenderTree := fun _ => []

/-- The renders of one program after another: those of the second if the first does not stop. -/
def bindTrees (p : Run α) (first : Session → List RenderTree)
    (second : α → Session → List RenderTree) (s : Session) : List RenderTree :=
  first s ++
    match p.run s with
    | (.ok a, after) => second a after
    | (.error _, _) => []

section
variable (call : Call) (nested : Nat → String → Payload → Run Payload)
  (nestedTree : Nat → String → Payload → Session → RenderTree)

/-- The renders of an action, those of the class above being `baseTrees`. -/
def actionTrees (baseTrees : Session → List RenderTree) : Action → Session → List RenderTree
  | .callBase => baseTrees
  | .render engines engine data =>
    bindTrees (enginesAt engines) noTrees fun id =>
      bindTrees (evalPayload data) noTrees fun data s => [nestedTree id engine data s]
  | _ => noTrees

/-- The renders of a body, up to the action that ends it. -/
def bodyTrees (base : Run Payload) (baseTrees : Session → List RenderTree) :
    List Action → Session → List RenderTree
  | [] => noTrees
  | .finish _ :: _ => noTrees
  | action :: rest =>
    bindTrees (doAction call base nested action) (actionTrees nestedTree baseTrees action) fun _ =>
      bodyTrees base baseTrees rest

/-- The renders of an evaluation. -/
def classTrees : EngineClass → Session → List RenderTree
  | .derived own above =>
    match own.body with
    | some actions =>
      bodyTrees call nested nestedTree (evaluateAs call nested above) (classTrees above) actions
    | none => classTrees above
  | _ => noTrees

end

/-- A render with the renders that it has started. -/
def renderTree : (depth engines : Nat) → (engine : String) → Traced File → Payload → Json →
    Option Bindings → Session → RenderTree
  | 0, engines, engine, _, _, _, _, _ => .refused engines engine .tooDeep
  | depth + 1, engines, engine, file, data, context, bindings, s =>
    match (createTemplate engines engine (some file) data none none).run s with
    | (.error halt, _) => .refused engines engine halt
    | (.ok t, created) =>
      let bindings := bindings.getD []
      let nested := fun engines engine data =>
        render depth engines engine t.file data context (some bindings)
      let nestedTree := fun engines engine data =>
        renderTree depth engines engine file data context (some bindings)
      let begun := { created with clock := created.clock.advance }
      let ended := (evaluateAs ⟨t, context, some bindings⟩ nested t.cls).run begun
      .started engines engine file.value.location created.clock.taken
        (classTrees ⟨t, context, some bindings⟩ nested nestedTree t.cls begun)
        (.of ended.2.clock.taken ended.1)

/-! ### Books -/

/-- What the clock and the log have for several trees. -/
structure Books (s after : Session) (trees : List RenderTree) : Prop where
  engines : after.engines = s.engines
  shown : after.clock.shown = s.clock.shown
  /-- The clock has been read for the trees only, in their order. -/
  readings : ∃ n, after.clock.taken = s.clock.taken + n ∧
    readingsAll trees = List.range' s.clock.taken n
  /-- What has been written down about engines is what the trees write down. -/
  log : ∃ written, after.log = s.log ++ written ∧
    written.filter aboutEngines = records s.clock.shown trees

theorem Quiet.books (h : Quiet s after) : Books s after [] where
  engines := h.engines
  shown := by rw [h.clock]
  readings := ⟨0, by rw [h.clock, Nat.add_zero], rfl⟩
  log := h.log

theorem Books.append {later : Session} (h : Books s after trees) (h' : Books after later trees') :
    Books s later (trees ++ trees') where
  engines := h'.engines.trans h.engines
  shown := h'.shown.trans h.shown
  readings := by
    obtain ⟨n, htaken, hread⟩ := h.readings
    obtain ⟨m, htaken', hread'⟩ := h'.readings
    refine ⟨n + m, by rw [htaken', htaken, Nat.add_assoc], ?_⟩
    rw [readingsAll_append, hread, hread', htaken, List.range'_append_1]
  log := by
    obtain ⟨written, hlog, hrec⟩ := h.log
    obtain ⟨written', hlog', hrec'⟩ := h'.log
    refine ⟨written ++ written', by rw [hlog', hlog, List.append_assoc], ?_⟩
    rw [List.filter_append, hrec, hrec', h.shown, records_append]

/-- What is known stays known. -/
theorem Books.knows (h : Books s after trees) : after.Knows = s.Knows := by
  funext engines engine
  simp only [Knows, registry, h.engines]

/-! ### Programs that are accounted for -/

/-- The trees are what a run from `s` does to the clock and to the log, and how it ends. -/
structure AccountsFor (s : Session) (trees : List RenderTree) (ended : Except Halt α × Session) :
    Prop where
  books : Books s ended.2 trees
  unwinds : Unwinds trees ended.1
  lawful : ∀ t ∈ rendersAll trees, Lawful s.Knows t

/-- The trees account for the program wherever it is run. -/
def Accounted (p : Run α) (treesOf : Session → List RenderTree) : Prop :=
  ∀ s, AccountsFor s (treesOf s) (p.run s)

theorem accounted_quiet {p : Run α} (h : Keeps Quiet p) : Accounted p noTrees := by
  intro s
  refine ⟨(h s).books, Or.inl ?_, ?_⟩
  · intro t ht
    cases ht
  · intro t ht
    cases ht

theorem AccountsFor.append {a : α} {out : Except Halt β × Session}
    (h : AccountsFor s trees (.ok a, after)) (h' : AccountsFor after trees' out) :
    AccountsFor s (trees ++ trees') out where
  books := h.books.append h'.books
  unwinds := h'.unwinds.append h.unwinds.returned
  lawful t ht := by
    rw [rendersAll_append, List.mem_append] at ht
    rcases ht with ht | ht
    · exact h.lawful t ht
    · -- what is known where the second run starts is what was known before the first
      rw [← h.books.knows]
      exact h'.lawful t ht

section
variable {p : Run α} {f : α → Run β} {first : Session → List RenderTree}
  {second : α → Session → List RenderTree}

/-- One program after another is accounted for by the trees of both. -/
theorem Accounted.bind (hp : Accounted p first) (hf : ∀ a, Accounted (f a) (second a)) :
    Accounted (p >>= f) (bindTrees p first second) := by
  intro s
  have h := hp s
  rcases hrun : p.run s with ⟨halt | a, after⟩
  · rw [hrun] at h
    rw [run_bind_error hrun, bindTrees, hrun, List.append_nil]
    exact ⟨h.books, h.unwinds.error, h.lawful⟩
  · rw [hrun] at h
    rw [run_bind_ok hrun, bindTrees, hrun]
    exact h.append (hf a after)

/-- What a quiet program does first is not accounted for. -/
theorem Accounted.after_quiet (hp : Keeps Quiet p) (hf : ∀ a, Accounted (f a) (second a)) :
    Accounted (p >>= f) (bindTrees p noTrees second) :=
  (accounted_quiet hp).bind hf

/-- What a quiet program does last is not accounted for. -/
theorem Accounted.before_quiet (hp : Accounted p first) (hf : ∀ a, Keeps Quiet (f a)) :
    Accounted (p >>= f) first := by
  have h := hp.bind fun a => accounted_quiet (hf a)
  -- whether the first program stops or not, the second adds nothing
  have htrees : (bindTrees p first fun _ => noTrees) = first := by
    funext s
    rw [bindTrees]
    rcases p.run s with ⟨_ | _, _⟩ <;> exact List.append_nil _
  rwa [htrees] at h

end

/-! ### Evaluations -/

section
variable (call : Call) {base : Run Payload} {nested : Nat → String → Payload → Run Payload}
  {baseTrees : Session → List RenderTree}
  {nestedTree : Nat → String → Payload → Session → RenderTree}

theorem accounted_doAction (hbase : Accounted base baseTrees)
    (hnested : ∀ engines engine data,
      Accounted (nested engines engine data) fun s => [nestedTree engines engine data s])
    (action : Action) :
    Accounted (doAction call base nested action) (actionTrees nestedTree baseTrees action) := by
  cases action with
  | callBase => exact hbase.before_quiet fun _ => keeps_putTraced _ _
  | render engines engine data =>
    refine .after_quiet (views_enginesAt engines).keeps fun id => ?_
    refine .after_quiet (keeps_evalPayload data) fun data => ?_
    exact (hnested id engine data).before_quiet fun _ => keeps_putTraced _ _
  | _ => exact accounted_quiet (OverlooksStores.keeps_doAction call base nested rfl)

theorem accounted_runBody (hbase : Accounted base baseTrees)
    (hnested : ∀ engines engine data,
      Accounted (nested engines engine data) fun s => [nestedTree engines engine data s])
    (actions : List Action) :
    Accounted (runBody call base nested actions)
      (bodyTrees call nested nestedTree base baseTrees actions) := by
  induction actions with
  | nil => exact accounted_quiet (views_payloadOf _).keeps
  | cons action rest ih =>
    have hstep := (accounted_doAction call hbase hnested action).bind fun _ => ih
    -- an action that ends the body is not done at all
    cases action with
    | finish data => exact accounted_quiet (keeps_evalPayload data)
    | _ => exact hstep

/-- **An evaluation is accounted for if the renders are that it may start.** -/
theorem accounted_evaluateAs (nested : Nat → String → Payload → Run Payload)
    (nestedTree : Nat → String → Payload → Session → RenderTree)
    (hnested : ∀ engines engine data,
      Accounted (nested engines engine data) fun s => [nestedTree engines engine data s])
    (cls : EngineClass) :
    Accounted (evaluateAs call nested cls) (classTrees call nested nestedTree cls) := by
  -- on the chain of classes: what a body may go on with is accounted for in the class above
  induction cls with
  | root => exact accounted_quiet (.raise _)
  | template => exact accounted_quiet (.raise _)
  | derived own above ih =>
    rcases hbody : own.body with _ | actions
    · have hrun : evaluateAs call nested (.derived own above) = evaluateAs call nested above := by
        rw [evaluateAs, hbody]
      have htrees : classTrees call nested nestedTree (.derived own above) =
          classTrees call nested nestedTree above := by
        rw [classTrees, hbody]
      rw [hrun, htrees]
      exact ih
    · have hrun : evaluateAs call nested (.derived own above) =
          runBody call (evaluateAs call nested above) nested actions := by
        rw [evaluateAs, hbody]
      have htrees : classTrees call nested nestedTree (.derived own above) =
          bodyTrees call nested nestedTree (evaluateAs call nested above)
            (classTrees call nested nestedTree above) actions := by
        rw [classTrees, hbody]
      rw [hrun, htrees]
      exact accounted_runBody call ih hnested actions

end

/-! ### The start of a render -/

section
variable {engines : Nat} {engine : String} {c : EngineClass}

/-- A class makes a template of its own. -/
theorem run_createTemplate (file : Option (Traced File)) (data : Payload)
    (h : (s.registry engines).get? engine = some c) :
    (createTemplate engines engine file data none none).run s =
      (newTemplate c file data none none).run s := by
  have hresolve : (s.registry engines).resolve engine = .ok c := by
    rw [Engines.resolve, h]
  rw [createTemplate, run_bind_ok (run_get s), hresolve]
  rfl

/-- A name without a class makes no template. -/
theorem run_createTemplate_unknown (file : Option (Traced File)) (data : Payload)
    (h : (s.registry engines).get? engine = none) :
    (createTemplate engines engine file data none none).run s =
      (.error (.fault (.engineUnknown engine (s.registry engines).classes.keys)), s) := by
  have hresolve : (s.registry engines).resolve engine =
      .error (.engineUnknown engine (s.registry engines).classes.keys) := by
    rw [Engines.resolve, h]
  rw [createTemplate, run_bind_ok (run_get s), hresolve]
  rfl

/-- What is not known makes no template, and nothing has happened. -/
theorem run_createTemplate_of_not_knows (file : Option (Traced File)) (data : Payload)
    (h : ¬ s.Knows engines engine) :
    ∃ fault, (createTemplate engines engine file data none none).run s =
      (.error (.fault fault), s) := by
  rcases hc : (s.registry engines).get? engine with _ | c
  · exact ⟨_, run_createTemplate_unknown file data hc⟩
  · have hno : c.isEngine = false := by
      rw [← Bool.not_eq_true]
      intro hyes
      exact h ⟨c, hc, hyes⟩
    refine ⟨.noArguments c.name, ?_⟩
    rw [run_createTemplate file data hc, newTemplate, hno]
    rfl

/-- An engine makes a template for the file. -/
theorem run_createTemplate_of_knows (file : Option (Traced File)) (data : Payload)
    (h : s.Knows engines engine) :
    ∃ t created, (createTemplate engines engine file data none none).run s = (.ok t, created) ∧
      t.file = file := by
  obtain ⟨c, hc, hyes⟩ := h
  refine ⟨⟨s.next, c, file, Template.chooseLibraries c none, ⟨.default⟩⟩,
    { s with next := s.next + 1, payloads := s.payloads.put s.next data }, ?_, rfl⟩
  rw [run_createTemplate file data hc, newTemplate, hyes]
  rfl

end

/-! ### The end of a render -/

/-- The session in which a render has ended. -/
def closed (s : Session) (engine location : String) (start : Nat) (ending : Ending) : Session :=
  { s with
    clock := if ending.stop?.isSome then s.clock.advance else s.clock
    log := s.log ++ (ending.record? s.clock.shown engine location start).toList }

theorem run_finishRender (engine : String) (file : File) (start : Nat) (out : Except Halt Payload)
    (s : Session) :
    (finishRender engine (some file) (s.clock.shown start) out).run s =
      (out, s.closed engine file.location start (.of s.clock.taken out)) := by
  rcases out with (fault | _) | result
  · -- an interruption is neither timed nor written down
    rcases h : fault.isInterruption with _ | _
    · simp only [finishRender, h, Ending.of]
      rfl
    · simp [finishRender, h, Ending.of, closed, Ending.stop?, Ending.record?]
  · have hlog : s.log ++ [] = s.log := List.append_nil s.log
    simp only [finishRender, Ending.of, closed, Ending.record?, Option.toList_none, hlog]
    rfl
  · rfl

theorem aboutEngines_of_record? {shown : Nat → Float} {engine location : String} {start : Nat}
    {ending : Ending} {e : Event} (h : ending.record? shown engine location start = some e) :
    aboutEngines e = true := by
  rcases ending with _ | _ | _ <;> cases h <;> rfl

/-- A render between its first reading and its end, with what its evaluation has done. -/
theorem books_started {engines : Nat} {engine location : String} {created : Session}
    {inner : List RenderTree} {ending : Ending} (hcreated : Quiet s created)
    (hinner : Books { created with clock := created.clock.advance } after inner)
    (hstop : ∀ stop, ending.stop? = some stop → stop = after.clock.taken) :
    Books s (after.closed engine location s.clock.taken ending)
      [.started engines engine location s.clock.taken inner ending] where
  engines := hinner.engines.trans hcreated.engines
  shown := by
    -- a reading changes which one is due next, not what any of them shows
    have hclosed :
        (after.closed engine location s.clock.taken ending).clock.shown = after.clock.shown := by
      unfold closed
      split <;> rfl
    rw [hclosed, hinner.shown, ← hcreated.clock]
    rfl
  readings := by
    obtain ⟨n, htaken, hread⟩ := hinner.readings
    have htaken' : after.clock.taken = s.clock.taken + 1 + n := by
      rw [htaken, ← hcreated.clock]
      rfl
    have hread' : readingsAll inner = List.range' (s.clock.taken + 1) n := by
      rw [hread, ← hcreated.clock]
      rfl
    rw [readingsAll_singleton, readings, hread']
    -- the second reading, if there is one, comes right after those of the inner renders
    rcases hend : ending.stop? with _ | stop
    · refine ⟨n + 1, ?_, ?_⟩
      · simp only [closed, hend]
        show after.clock.taken = _
        omega
      · rw [Option.toList_none, List.append_nil, List.range'_succ]
    · refine ⟨n + 2, ?_, ?_⟩
      · simp only [closed, hend]
        show after.clock.taken + 1 = _
        omega
      · rw [hstop stop hend, htaken', Option.toList_some, List.range'_succ,
          List.range'_concat, Nat.one_mul]
  log := by
    obtain ⟨written, hlog, hquiet⟩ := hcreated.log
    obtain ⟨written', hlog', hrec⟩ := hinner.log
    have hshown : after.clock.shown = s.clock.shown := by
      rw [hinner.shown, ← hcreated.clock]
      rfl
    have hown : (ending.record? s.clock.shown engine location s.clock.taken).toList.filter
        aboutEngines =
        (ending.record? s.clock.shown engine location s.clock.taken).toList := by
      rw [List.filter_eq_self]
      intro e he
      exact aboutEngines_of_record? (Option.mem_toList.1 he)
    refine ⟨written ++ written' ++
      (ending.record? s.clock.shown engine location s.clock.taken).toList, ?_, ?_⟩
    · show after.log ++ _ = _
      rw [hlog', hshown]
      show created.log ++ written' ++ _ = _
      rw [hlog]
      simp only [List.append_assoc]
    · rw [List.filter_append, List.filter_append, hquiet, List.nil_append, hrec, hown,
        records_started]
      show records created.clock.shown inner ++ _ = _
      rw [hcreated.clock]

/-! ### Renders -/

/-- A refused render leaves the session as it is. -/
theorem accountsFor_refused {engines : Nat} {engine : String} {halt : Halt}
    (hlaw : Lawful s.Knows (.refused engines engine halt)) :
    AccountsFor s [.refused engines engine halt]
      ((.error halt, s) : Except Halt Payload × Session) where
  books := by
    have h : Books s s [] := (refl s : Quiet s s).books
    exact ⟨h.engines, h.shown, h.readings, h.log⟩
  unwinds := unwinds_singleton (.refused engines engine halt)
  lawful t ht := by
    rw [rendersAll_singleton, renders, List.mem_singleton] at ht
    rw [ht]
    exact hlaw

/-- A render that has started is accounted for if its evaluation is. -/
theorem accountsFor_started {engines : Nat} {engine : String} {created : Session}
    {inner : List RenderTree} {out : Except Halt Payload} (location : String)
    (hknown : s.Knows engines engine)
    (hcreated : Quiet s created)
    (h : AccountsFor { created with clock := created.clock.advance } inner (out, after)) :
    AccountsFor s
      [.started engines engine location s.clock.taken inner (.of after.clock.taken out)]
      (out, after.closed engine location s.clock.taken (.of after.clock.taken out)) where
  books := books_started hcreated h.books fun stop hstop => Ending.eq_of_stop?_of hstop
  unwinds := by
    have hunwinds := unwinds_singleton
      (.started engines engine location s.clock.taken inner (.of after.clock.taken out))
    rwa [outcome, Ending.outcome_of] at hunwinds
  lawful t ht := by
    rw [rendersAll_singleton, renders, List.mem_append, List.mem_singleton] at ht
    rcases ht with ht | rfl
    · have hknows : Session.Knows { created with clock := created.clock.advance } = s.Knows := by
        funext engines engine
        simp only [Knows, registry, hcreated.engines]
      rw [← hknows]
      exact h.lawful t ht
    · refine .started hknown ?_ (Ending.fitting_of _ _)
      rw [Ending.outcome_of]
      exact h.unwinds

/-- The renders of an evaluation of a template for a file. -/
def evaluateTrees (depth : Nat) (t : Template) (file : Traced File) (context : Json)
    (bindings : Option Bindings) : Session → List RenderTree :=
  classTrees ⟨t, context, bindings⟩
    (fun engines engine data => render depth engines engine t.file data context bindings)
    (fun engines engine data => renderTree depth engines engine file data context bindings) t.cls

section
variable {engines : Nat} {engine : String} {file : Traced File} {data : Payload}

/-- A render without a template is refused. -/
theorem render_refused (depth : Nat) (context : Json) (bindings : Option Bindings) {halt : Halt}
    (h : (createTemplate engines engine (some file) data none none).run s = (.error halt, after)) :
    (render (depth + 1) engines engine (some file) data context bindings).run s =
        (.error halt, after) ∧
      renderTree (depth + 1) engines engine file data context bindings s =
        .refused engines engine halt := by
  constructor
  · rw [render, run_bind_error h]
  · rw [renderTree, h]

/-- A render with a template starts, evaluates it, and ends as the evaluation does. -/
theorem render_started (depth : Nat) (context : Json) (bindings : Option Bindings) {t : Template}
    {created : Session} {out : Except Halt Payload}
    (h : (createTemplate engines engine (some file) data none none).run s = (.ok t, created))
    (hout : (evaluate depth t context (some (bindings.getD []))).run
      { created with clock := created.clock.advance } = (out, after))
    (hshown : after.clock.shown = created.clock.shown) :
    (render (depth + 1) engines engine (some file) data context bindings).run s =
        (out, after.closed engine file.value.location created.clock.taken
          (.of after.clock.taken out)) ∧
      renderTree (depth + 1) engines engine file data context bindings s =
        .started engines engine file.value.location created.clock.taken
          (evaluateTrees depth t file context (some (bindings.getD []))
            { created with clock := created.clock.advance })
          (.of after.clock.taken out) := by
  constructor
  · have hobserve : (observe (evaluate depth t context (some (bindings.getD [])))).run
        { created with clock := created.clock.advance } = (.ok out, after) := by
      rw [run_observe, hout]
    have hstart : created.clock.current = after.clock.shown created.clock.taken := by
      rw [hshown]
      rfl
    have hbegun : (render (depth + 1) engines engine (some file) data context bindings).run s =
        (observe (evaluate depth t context (some (bindings.getD []))) >>= fun outcome =>
          finishRender engine (some file.value) created.clock.current outcome).run
          { created with clock := created.clock.advance } := by
      rw [render, run_bind_ok h, run_bind_ok (run_readClock created)]
      rfl
    rw [hbegun, run_bind_ok hobserve, hstart]
    exact run_finishRender engine file.value created.clock.taken out after
  · have hout' := hout
    rw [evaluate] at hout'
    rw [renderTree, h]
    simp only [hout']
    rfl

end

/-- **Every render is accounted for by its tree**, and ends as its tree says. -/
theorem accounted_render (depth engines : Nat) (engine : String) (file : Traced File)
    (data : Payload) (context : Json) (bindings : Option Bindings) (s : Session) :
    AccountsFor s [renderTree depth engines engine file data context bindings s]
        ((render depth engines engine (some file) data context bindings).run s) ∧
      (renderTree depth engines engine file data context bindings s).outcome =
        ((render depth engines engine (some file) data context bindings).run s).1 := by
  -- on how deep renders may nest: an evaluation starts only renders that may nest less
  induction depth generalizing engines engine data bindings s with
  | zero => exact ⟨accountsFor_refused (.tooDeep engines engine), rfl⟩
  | succ depth ih =>
    by_cases hknown : s.Knows engines engine
    · -- the evaluation is of a template for the same file, and so are the renders inside
      obtain ⟨t, created, hcreate, hfile⟩ := run_createTemplate_of_knows (some file) data hknown
      have hquiet : Quiet s created := by
        have h := keeps_createTemplate (R := Quiet) engines engine (some file) data none none s
        rwa [hcreate] at h
      have heval : Accounted (evaluate depth t context (some (bindings.getD [])))
          (evaluateTrees depth t file context (some (bindings.getD []))) := by
        apply accounted_evaluateAs
        intro engines engine data s
        rw [hfile]
        exact (ih engines engine data _ s).1
      rcases hout : (evaluate depth t context (some (bindings.getD []))).run
        { created with clock := created.clock.advance } with ⟨out, after⟩
      have haccount := heval { created with clock := created.clock.advance }
      rw [hout] at haccount
      obtain ⟨hrun, htree⟩ :=
        render_started depth context bindings hcreate hout haccount.books.shown
      have hstarted := accountsFor_started file.value.location hknown hquiet haccount
      rw [← hquiet.clock] at hstarted
      rw [hrun, htree]
      exact ⟨hstarted, Ending.outcome_of _ _⟩
    · obtain ⟨fault, hcreate⟩ := run_createTemplate_of_not_knows (some file) data hknown
      obtain ⟨hrun, htree⟩ := render_refused depth context bindings hcreate
      rw [hrun, htree]
      exact ⟨accountsFor_refused (.refused hknown), rfl⟩

/-! ### What a render comes to -/

theorem knows_of_sound (h : s.EnginesSound) :
    s.Knows = fun engines engine => (s.registry engines).get? engine ≠ none := by
  funext engines engine
  apply propext
  constructor
  · rintro ⟨c, hc, -⟩ hnone
    rw [hc] at hnone
    cases hnone
  · intro hsome
    obtain ⟨c, hc⟩ := Option.ne_none_iff_exists'.1 hsome
    exact ⟨c, hc, h engines engine c hc⟩

/-- What a render of a session comes to, given by its tree. -/
structure RenderAccount (s : Session) (engines : Nat) (engine location : String)
    (ended : Except Halt Payload × Session) (tree : RenderTree) : Prop where
  /-- The result or the fault is that of the tree. -/
  outcome : ended.1 = tree.outcome
  /-- An engine that is not known leaves everything as it is. -/
  unknown : (s.registry engines).get? engine = none →
    ended.2 = s ∧ tree = .refused engines engine
      (.fault (.engineUnknown engine (s.registry engines).classes.keys))
  /-- Every other render starts with the reading that is due. -/
  started : (s.registry engines).get? engine ≠ none →
    ∃ inner ending, tree = .started engines engine location s.clock.taken inner ending
  /-- The same goes for the renders inside: unless they are nested too deep, those that do not start
  are those of engines that are not known. -/
  refusedInside : ended.1 ≠ .error .tooDeep → ∀ engines engine halt,
    .refused engines engine halt ∈ tree.renders → (s.registry engines).get? engine = none
  /-- A render inside that starts is known, and ends as the last of its own renders does that did
  not return.  Nothing passes without a record but interruptions. -/
  startedInside : ∀ engines engine location start inner ending,
    .started engines engine location start inner ending ∈ tree.renders →
      (s.registry engines).get? engine ≠ none ∧ Unwinds inner ending.outcome ∧ ending.Fitting
  /-- The clock and the log have what the tree says, and nothing else about engines. -/
  books : Books s ended.2 [tree]
  /-- The readings of a render, those of its own renders included, are taken one after the other. -/
  ordered : ∀ t ∈ tree.renders, t.readings.Pairwise (· < ·)
  /-- The failures that are written down are those of the renders that the fault has crossed. -/
  crossing : ((records s.clock.shown [tree]).filter Event.isFailure).map some =
    tree.crossed.map (record? s.clock.shown)
  crossedBy : ∀ fault, ended.1 = .error (.fault fault) → ∀ t ∈ tree.crossed, t.FailedWith fault

/-- **The clock and the log account for every render**, whatever its engine does and however deep it
nests others. -/
theorem render_accounts (s : Session) (hsound : s.EnginesSound) (depth engines : Nat)
    (engine : String) (file : Traced File) (data : Payload) (context : Json)
    (bindings : Option Bindings) :
    RenderAccount s engines engine file.value.location
      ((render (depth + 1) engines engine (some file) data context bindings).run s)
      (renderTree (depth + 1) engines engine file data context bindings s) := by
  obtain ⟨haccount, hout⟩ :=
    accounted_render (depth + 1) engines engine file data context bindings s
  have hlaws := haccount.lawful
  rw [rendersAll_singleton, knows_of_sound hsound] at hlaws
  refine ⟨hout.symm, ?_, ?_, ?_, ?_, haccount.books, ?_, ?_, ?_⟩
  · intro hunknown
    obtain ⟨hrun, htree⟩ := render_refused depth context bindings
      (run_createTemplate_unknown (some file) data hunknown)
    rw [hrun]
    exact ⟨rfl, htree⟩
  · intro hknown
    rw [← congrFun (congrFun (knows_of_sound hsound) engines) engine] at hknown
    obtain ⟨t, created, hcreate, -⟩ := run_createTemplate_of_knows (some file) data hknown
    have hclock : created.clock = s.clock := by
      have h := keeps_createTemplate (R := Quiet) engines engine (some file) data none none s
      rw [hcreate] at h
      exact h.clock
    rw [renderTree, hcreate, ← hclock]
    exact ⟨_, _, rfl⟩
  · intro hdeep engines engine halt ht
    -- what is nested too deep ends the whole render
    cases hlaws _ ht with
    | tooDeep => exact absurd (hout.symm.trans (outcome_of_tooDeep _ hlaws _ ht rfl)) hdeep
    | refused hno => exact Classical.not_not.1 hno
  · intro engines engine location start inner ending ht
    cases hlaws _ ht with
    | started hknown hunwinds hfit => exact ⟨hknown, hunwinds, hfit⟩
  · intro t ht
    -- the readings inside are a part of all readings, which count up by one
    obtain ⟨n, -, hread⟩ := haccount.books.readings
    rw [readingsAll_singleton] at hread
    refine List.Pairwise.sublist (readings_within _ t ht).sublist ?_
    rw [hread]
    exact List.pairwise_lt_range' 1 Nat.one_pos
  · rw [filter_isFailure_records, ← filter_failed_renders _ hlaws]
    apply map_record?_of_failed
    intro t ht
    exact (List.mem_filter.1 ht).2
  · intro fault hfault
    rw [← hout] at hfault
    exact failedWith_of_mem_crossed _ hlaws hfault

/-- A session with an engine that fails and another one that renders by it. -/
def nestedSession : Session :=
  ({ initial Dict.empty .still with
      handles := Dict.ofList [("engines", .engines 1)] }.entered 1 "inner"
      (.derived ⟨2, "Inner", none, none, some [.raise (.absentKey "title")]⟩ .template) []).entered
    1 "outer"
      (.derived ⟨3, "Outer", none, none,
        some [.render "engines" "inner" (.text ⟨"part", .shared⟩)]⟩ .template) []

theorem sound_nestedSession : nestedSession.EnginesSound := by
  refine sound_entered (sound_entered ?_ rfl) rfl
  intro engines engine c hc
  cases hc

/-- A fault that crosses two renders is written down twice, and the clock is read four times. -/
theorem failures_of_nested_renders :
    nestedSession.EnginesSound ∧
      ∃ after written,
        (render 3 1 "outer" (some ⟨.text "page.md", .shared⟩) (.text ⟨"page", .shared⟩) .null
          none).run nestedSession = (.error (.fault (.absentKey "title")), after) ∧
        after.clock.taken = 4 ∧ after.log = nestedSession.log ++ written ∧
        ((written.filter aboutEngines).filter Event.isFailure).length = 2 := by
  have h : RenderAccount nestedSession 1 "outer" "page.md"
      ((render 3 1 "outer" (some ⟨.text "page.md", .shared⟩) (.text ⟨"page", .shared⟩) .null
        none).run nestedSession)
      (renderTree 3 1 "outer" ⟨.text "page.md", .shared⟩ (.text ⟨"page", .shared⟩) .null none
        nestedSession) :=
    render_accounts nestedSession sound_nestedSession 2 1 "outer" ⟨.text "page.md", .shared⟩
      (.text ⟨"page", .shared⟩) .null none
  refine ⟨sound_nestedSession, ?_⟩
  rcases hrun : (render 3 1 "outer" (some ⟨.text "page.md", .shared⟩) (.text ⟨"page", .shared⟩)
    .null none).run nestedSession with ⟨out, after⟩
  rw [hrun] at h
  have hout : out = .error (.fault (.absentKey "title")) := h.outcome.trans (by decide +kernel)
  obtain ⟨n, htaken, hread⟩ := h.books.readings
  obtain ⟨written, hlog, hrecords⟩ := h.books.log
  refine ⟨after, written, by rw [hout], ?_, hlog, ?_⟩
  · -- the tree says how many readings there are
    have hn : n = 4 := by
      have hlength := congrArg List.length hread
      rw [List.length_range'] at hlength
      rw [← hlength]
      decide +kernel
    rw [htaken, hn]
    rfl
  · have hlength := congrArg List.length h.crossing
    rw [List.length_map, List.length_map] at hlength
    rw [hrecords, hlength]
    decide +kernel

end Session

end AssetPipeline
