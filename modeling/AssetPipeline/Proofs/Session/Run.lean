/-
AssetPipeline/Proofs/Session/Run.lean

Running the programs of a session.

A program followed by another runs on where the first ends, or ends with it if the
first stops (`run_bind_ok`, `run_bind_error`).  With these two, each small program
has one equation for its outcome and the session afterwards.

Main statements: `run_require` and `run_tryRequire` give these in terms of the import
by the loader.  Both ways to a dependency import it alike; they differ in what they
write down and in what they make of a missing dependency.  If nothing is made of it, they end
in one way (`run_refused`).
-/
import AssetPipeline.Session.State

namespace AssetPipeline

/-! ### Outcomes can be compared -/

instance decidableEqOutcome {ε α : Type} [DecidableEq ε] [DecidableEq α] :
    DecidableEq (Except ε α)
  | .ok a, .ok b =>
    if h : a = b then .isTrue (congrArg Except.ok h) else .isFalse fun heq => h (Except.ok.inj heq)
  | .error a, .error b =>
    if h : a = b then .isTrue (congrArg Except.error h)
    else .isFalse fun heq => h (Except.error.inj heq)
  | .ok _, .error _ => .isFalse fun h => by cases h
  | .error _, .ok _ => .isFalse fun h => by cases h

deriving instance DecidableEq for LoadResult

namespace Session

variable {α β : Type}

/-! ### One program after another -/

theorem run_bind_ok {p : Run α} {f : α → Run β} {s after : Session} {a : α}
    (h : p.run s = (.ok a, after)) : (p >>= f).run s = (f a).run after := by
  rw [run_bind, h]

theorem run_bind_error {p : Run α} {f : α → Run β} {s after : Session} {halt : Halt}
    (h : p.run s = (.error halt, after)) : (p >>= f).run s = (.error halt, after) := by
  rw [run_bind, h]

theorem run_get (s : Session) : (get : Run Session).run s = (.ok s, s) := rfl

theorem run_ofExcept (outcome : Except Fault α) (s : Session) :
    (ofExcept outcome).run s = (outcome.mapError Halt.fault, s) := by
  cases outcome <;> rfl

theorem mapError_eq_ok_iff {outcome : Except Fault α} {a : α} :
    outcome.mapError Halt.fault = .ok a ↔ outcome = .ok a := by
  rcases outcome with fault | b
  · constructor <;> intro h <;> cases h
  · constructor <;> intro h <;> cases h <;> rfl

theorem mapError_eq_fault_iff {outcome : Except Fault α} {fault : Fault} :
    outcome.mapError Halt.fault = .error (.fault fault) ↔ outcome = .error fault := by
  rcases outcome with fault' | b
  · constructor <;> intro h <;> cases h <;> rfl
  · constructor <;> intro h <;> cases h

/-- Events are written down in order. -/
theorem run_records (events : List Event) (s : Session) :
    (events.forM record).run s = (.ok (), { s with log := s.log ++ events }) := by
  induction events generalizing s with
  | nil =>
    show (Except.ok (), s) = _
    rw [List.append_nil]
  | cons e rest ih =>
    show (record e >>= fun _ => rest.forM record).run s = _
    rw [run_bind_ok (run_record e s), ih, List.append_assoc, List.singleton_append]

/-! ### Handles -/

theorem run_handle {name : String} {o : Object} {s : Session}
    (h : s.handles.get? name = some o) : (handle name).run s = (.ok o, s) := by
  rw [handle, run_bind_ok (run_get s), h]
  rfl

theorem run_enginesAt {name : String} {id : Nat} {s : Session}
    (h : s.handles.get? name = some (.engines id)) : (enginesAt name).run s = (.ok id, s) := by
  unfold enginesAt
  rw [run_bind_ok (run_handle h)]
  rfl

/-- What has been made of a handle was made of its object. -/
theorem of_run_handle {name : String} {f : Object → Run β} {b : β} {s after : Session}
    (h : (handle name >>= f).run s = (.ok b, after)) :
    ∃ o, s.handles.get? name = some o ∧ (f o).run s = (.ok b, after) := by
  rcases hheld : s.handles.get? name with _ | o
  · have hrun : (handle name).run s = (.error (.fault (.absentKey name)), s) := by
      rw [handle, run_bind_ok (run_get s), hheld]
      rfl
    rw [run_bind_error hrun] at h
    cases h
  · rw [run_bind_ok (run_handle hheld)] at h
    exact ⟨o, rfl, h⟩

theorem of_run_librariesAt {name : String} {ref : LibrariesRef} {s after : Session}
    (h : (librariesAt name).run s = (.ok ref, after)) :
    s.handles.get? name = some (.libraries ref) ∧ after = s := by
  obtain ⟨o, hheld, h⟩ := of_run_handle h
  cases o with
  | libraries ref =>
    cases h
    exact ⟨hheld, rfl⟩
  | _ => cases h

theorem of_run_loaderAt {name : String} {l : Loader} {s after : Session}
    (h : (loaderAt name).run s = (.ok l, after)) :
    (∃ id, s.handles.get? name = some (.loader id l)) ∧ after = s := by
  obtain ⟨o, hheld, h⟩ := of_run_handle h
  cases o with
  | loader id l =>
    cases h
    exact ⟨⟨id, hheld⟩, rfl⟩
  | _ => cases h

theorem of_run_templateAt {name : String} {t : Template} {s after : Session}
    (h : (templateAt name).run s = (.ok t, after)) :
    s.handles.get? name = some (.template t) ∧ after = s := by
  obtain ⟨o, hheld, h⟩ := of_run_handle h
  cases o with
  | template t =>
    cases h
    exact ⟨hheld, rfl⟩
  | _ => cases h

/-! ### Dependencies -/

theorem run_acquire (l : Loader) (name : String) (file : Option File) (s : Session) :
    (acquire l name file).run s =
      (.ok (l.acquire s.installed name file s.cache).1,
        { s with cache := (l.acquire s.installed name file s.cache).2 }) := rfl

/-- **Requiring a dependency ends as its import by the loader does.** -/
theorem run_require (l : Loader) (name : String) (file : Option File) (s : Session) :
    (require l name file).run s =
      ((l.acquire s.installed name file s.cache).1.mapError Halt.fault,
        { s with
          cache := (l.acquire s.installed name file s.cache).2
          log := s.log ++
            Loader.requireEvents name file (l.acquire s.installed name file s.cache).1 }) := by
  unfold require
  rw [run_bind_ok (run_acquire l name file s), run_bind_ok (run_records _ _), run_ofExcept]

/-- **Trying a dependency ends as its import by the loader does**, up to a missing dependency, which
is a result. -/
theorem run_tryRequire (l : Loader) (name : String) (file : Option File) (s : Session) :
    (tryRequire l name file).run s =
      ((Loader.tried (l.acquire s.installed name file s.cache).1).mapError Halt.fault,
        { s with
          cache := (l.acquire s.installed name file s.cache).2
          log := s.log ++ Loader.tryEvents (l.acquire s.installed name file s.cache).1 }) := by
  unfold tryRequire
  rw [run_bind_ok (run_acquire l name file s), run_bind_ok (run_records _ _), run_ofExcept]

/-- **A fault that is no report and leaves the cache alone is all that comes of it**, whichever way
the dependency is asked for. -/
theorem run_refused {l : Loader} {name : String} {file : Option File} {fault : Fault} {s : Session}
    (h : l.acquire s.installed name file s.cache = (.error fault, s.cache))
    (hno : ∀ what, fault ≠ .dependencyMissing what) :
    (require l name file).run s = (.error (.fault fault), s) ∧
      (tryRequire l name file).run s = (.error (.fault fault), s) := by
  rw [run_require, run_tryRequire, h]
  cases fault with
  | dependencyMissing what => exact absurd rfl (hno what)
  | _ =>
    -- nothing is written down
    simp only [Loader.requireEvents, Loader.tryEvents, Loader.tried, List.append_nil]
    exact ⟨rfl, rfl⟩

end Session

end AssetPipeline
