/-
AssetPipeline/Proofs/Session/Untimed.lean

What renders do, apart from how long they take.

The clock is read by renders only, and what they make of it goes into the log, and nowhere else.  So
two runs that start with different readings differ in nothing but the readings and the durations
that have been written down (`SameButTime`).

Main statement: `agree_evaluate_untimed`, for evaluations with all the renders inside them.
-/
import AssetPipeline.Proofs.Session.Congruence
import AssetPipeline.Proofs.Session.TwoRuns

namespace AssetPipeline

namespace Event

/-- The event without its duration. -/
def untimed : Event → Event
  | .rendered engine location _ => .rendered engine location ⟨⟨0⟩⟩
  | .renderFailed engine location _ fault => .renderFailed engine location ⟨⟨0⟩⟩ fault
  | e => e

theorem untimed_rendered (engine location : String) (elapsed elapsed' : Duration) :
    (rendered engine location elapsed).untimed = (rendered engine location elapsed').untimed := rfl

theorem untimed_renderFailed (engine location : String) (elapsed elapsed' : Duration)
    (fault : Fault) :
    (renderFailed engine location elapsed fault).untimed =
      (renderFailed engine location elapsed' fault).untimed := rfl

end Event

namespace Session

variable {α β : Type} {before : List Event} {s s' : Session}

/-- Sessions that differ in nothing but the clock and the durations that have been written down
since the log was `before`. -/
structure SameButTime (before : List Event) (s s' : Session) : Prop where
  log : ∃ written written', s.log = before ++ written ∧ s'.log = before ++ written' ∧
    written.map Event.untimed = written'.map Event.untimed
  rest : ∃ clock log, s' = { s with clock := clock, log := log }

/-- Nothing has been written down yet. -/
theorem sameButTime_start (s : Session) (clock : Clock) :
    SameButTime s.log s { s with clock := clock } where
  log := ⟨[], [], by simp, by simp, rfl⟩
  rest := ⟨clock, s.log, rfl⟩

theorem SameButTime.retimed (h : SameButTime before s s') (clock clock' : Clock) :
    SameButTime before { s with clock := clock } { s' with clock := clock' } where
  log := h.log
  rest := by
    obtain ⟨_, log, rfl⟩ := h.rest
    exact ⟨clock', log, rfl⟩

/-- An event that differs in its duration is written down in both. -/
theorem SameButTime.record (h : SameButTime before s s') {e e' : Event}
    (he : e.untimed = e'.untimed) :
    SameButTime before { s with log := s.log ++ [e] } { s' with log := s'.log ++ [e'] } where
  log := by
    obtain ⟨written, written', hlog, hlog', hsame⟩ := h.log
    refine ⟨written ++ [e], written' ++ [e'], ?_, ?_, ?_⟩
    · simp [hlog]
    · simp [hlog']
    · simp [hsame, he]
  rest := by
    obtain ⟨clock, log, rfl⟩ := h.rest
    exact ⟨clock, log ++ [e'], rfl⟩

/-- From sessions that differ in time only, the programs come to such sessions, and end in the same
way. -/
abbrev UntimedRuns (before : List Event) {α : Type} (p q : Run α) : Prop :=
  Agree (SameButTime before) Eq Eq p q

namespace UntimedRuns

theorem oblivious {p : Run α} (h : Oblivious p) : UntimedRuns before p p := by
  intro s s' hs
  obtain ⟨clock, log, rfl⟩ := hs.rest
  have hown : (p.run s).2 =
      { (p.run s).2 with engines := s.engines, clock := s.clock, log := s.log } :=
    congrArg Prod.snd (h s s.engines s.clock s.log)
  rw [h s s.engines clock log]
  refine ⟨Outcome.alike_self (fun _ => rfl) _, ?_⟩
  rw [hown]
  exact ⟨hs.log, clock, log, rfl⟩

theorem record {e e' : Event} (h : e.untimed = e'.untimed) :
    UntimedRuns before (record e) (record e') :=
  fun _ _ hs => ⟨.ok rfl, hs.record h⟩

theorem createTemplate (engines : Nat) (engine : String) (file : Option (Traced File))
    (data : Payload) (libraries : Option LibrariesRef) (loader : Option Loader) :
    UntimedRuns before (createTemplate engines engine file data libraries loader)
      (createTemplate engines engine file data libraries loader) := by
  refine Agree.bind Agree.get fun s s' hs => ?_
  obtain ⟨clock, log, rfl⟩ := hs.rest
  exact (oblivious (.ofExcept _)).bind_eq fun cls =>
    oblivious (oblivious_newTemplate cls file data libraries loader)

/-- Two readings of the clock have nothing in common. -/
theorem readClock : Agree (SameButTime before) Eq (fun _ _ => True) readClock readClock :=
  fun _ _ hs => ⟨.ok trivial, hs.retimed _ _⟩

/-- Renders may start and end at other times. -/
theorem measures : Measures (SameButTime before) Eq (fun _ _ => True) where
  readClock := readClock
  locate file := by
    cases file with
    | none => exact oblivious (.raise _)
    | some file => exact oblivious (.pure _)
  rendered _ _ _ _ _ _ _ _ := record (Event.untimed_rendered ..)
  failed _ _ _ _ _ _ _ _ _ _ hfault := by
    cases hfault
    exact record (Event.untimed_renderFailed ..)
  interrupted hfault := by
    cases hfault
    rfl
  tooDeep := ⟨nofun, nofun⟩

end UntimedRuns

instance : Congruence (UntimedRuns before) where
  bind := .bind_eq
  oblivious := .oblivious
  recorded _ := .record rfl
  created := .createTemplate
  measuring engine file _ _ h := UntimedRuns.measures.measured engine file h

/-- **An evaluation does the same whatever the clock shows**, apart from durations. -/
theorem agree_evaluate_untimed (h : SameButTime before s s') (depth : Nat) (t : Template)
    (context : Json) (bindings : Option Bindings) :
    let run := (evaluate depth t context bindings).run s
    let run' := (evaluate depth t context bindings).run s'
    run.1 = run'.1 ∧ SameButTime before run.2 run'.2 := by
  obtain ⟨hout, hafter⟩ := congruent_evaluate (UntimedRuns before) depth t context bindings s s' h
  exact ⟨hout.eq, hafter⟩

end Session

end AssetPipeline
