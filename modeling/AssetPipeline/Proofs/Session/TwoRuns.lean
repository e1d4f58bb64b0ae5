/-
AssetPipeline/Proofs/Session/TwoRuns.lean

Two runs side by side.

Two programs agree if from sessions that are related they come to sessions that are related,
and end alike: both give values that are related, or both stop for reasons that are
(`Agree`).  What the relations are is left open.  Programs that agree, one after the other,
agree as soon as the second ones do for all values that are related.  Renders agree as the
evaluations in them do, if the clock and the log are such that this can be told (`Measures`).

Main statements: `Agree.bind` for one program after another, and `Measures.measured` for renders.
-/
import AssetPipeline.Proofs.Engine.Alike
import AssetPipeline.Proofs.Session.Congruence

namespace AssetPipeline.Session

variable {α β γ δ : Type} {S : Session → Session → Prop} {E : Halt → Halt → Prop}
  {V : α → β → Prop} {W : γ → δ → Prop}

/-- From sessions that are related, the programs come to sessions that are, and end alike. -/
def Agree (S : Session → Session → Prop) (E : Halt → Halt → Prop) (V : α → β → Prop)
    (p : Run α) (q : Run β) : Prop :=
  ∀ s s', S s s' →
    Outcome.Alike E V (p.run s).1 (q.run s').1 ∧ S (p.run s).2 (q.run s').2

namespace Agree

theorem pure {a : α} {b : β} (h : V a b) : Agree S E V (Pure.pure a) (Pure.pure b) :=
  fun _ _ hs => ⟨.ok h, hs⟩

theorem throw {halt halt' : Halt} (h : E halt halt') :
    Agree S E V (MonadExcept.throw halt : Run α) (MonadExcept.throw halt' : Run β) :=
  fun _ _ hs => ⟨.error h, hs⟩

/-- What is read off the sessions may be used as far as they are related. -/
theorem get : Agree S E S (MonadState.get : Run Session) (MonadState.get : Run Session) :=
  fun _ _ hs => ⟨.ok hs, hs⟩

theorem ofExcept {F : Fault → Fault → Prop} {outcome : Except Fault α} {outcome' : Except Fault β}
    (hE : ∀ fault fault', F fault fault' → E (.fault fault) (.fault fault'))
    (h : Outcome.Alike F V outcome outcome') :
    Agree S E V (ofExcept outcome) (ofExcept outcome') := by
  cases h with
  | ok hV => exact pure hV
  | error hF => exact throw (hE _ _ hF)

/-- **One program after another.** -/
theorem bind {p : Run α} {q : Run β} {f : α → Run γ} {g : β → Run δ} (hpq : Agree S E V p q)
    (hfg : ∀ a b, V a b → Agree S E W (f a) (g b)) : Agree S E W (p >>= f) (q >>= g) := by
  intro s s' hs
  obtain ⟨hout, hafter⟩ := hpq s s' hs
  rcases hp : p.run s with ⟨halt | a, after⟩
  · rcases hq : q.run s' with ⟨halt' | b, after'⟩
    · rw [hp, hq] at hout hafter
      rw [run_bind_error hp, run_bind_error hq]
      cases hout with
      | error hE => exact ⟨.error hE, hafter⟩
    · rw [hp, hq] at hout
      cases hout
  · rcases hq : q.run s' with ⟨halt' | b, after'⟩
    · rw [hp, hq] at hout
      cases hout
    · rw [hp, hq] at hout hafter
      rw [run_bind_ok hp, run_bind_ok hq]
      cases hout with
      | ok hV => exact hfg a b hV after after' hafter

/-- Where the first programs give equal values, the second ones have to agree for equal values. -/
theorem bind_eq {p q : Run α} {f : α → Run γ} {g : α → Run δ} (hpq : Agree S E Eq p q)
    (hfg : ∀ a, Agree S E W (f a) (g a)) : Agree S E W (p >>= f) (q >>= g) := by
  refine bind hpq fun a b hab => ?_
  cases hab
  exact hfg a

/-- Going on whether the programs stop or not, with the ways in which they have ended. -/
theorem observe {p : Run α} {q : Run β} (h : Agree S E V p q) :
    Agree S E (Outcome.Alike E V) (observe p) (observe q) := by
  intro s s' hs
  obtain ⟨hout, hafter⟩ := h s s' hs
  rw [run_observe, run_observe]
  exact ⟨.ok hout, hafter⟩

end Agree

/-! ### Renders -/

/-- What two runs have to have in common for renders in them to be measured alike; `T` relates what
the clocks show. -/
structure Measures (S : Session → Session → Prop) (E : Halt → Halt → Prop)
    (T : Float → Float → Prop) : Prop where
  readClock : Agree S E T readClock readClock
  locate : ∀ file, Agree S E Eq (locate file) (locate file)
  rendered : ∀ engine location {start start' stop stop'}, T start start' → T stop stop' →
    Agree S E Eq (record (.rendered engine location (.between start stop)))
      (record (.rendered engine location (.between start' stop')))
  failed : ∀ engine location {start start' stop stop' fault fault'}, T start start' →
    T stop stop' → E (.fault fault) (.fault fault') →
    Agree S E Eq (record (.renderFailed engine location (.between start stop) fault))
      (record (.renderFailed engine location (.between start' stop') fault'))
  interrupted : ∀ {fault fault'}, E (.fault fault) (.fault fault') →
    fault.isInterruption = fault'.isInterruption
  tooDeep : ∀ {fault}, ¬ E (.fault fault) .tooDeep ∧ ¬ E .tooDeep (.fault fault)

namespace Measures

variable {T : Float → Float → Prop}

/-- The ends of two renders agree if those of the evaluations do. -/
theorem finishRender (h : Measures S E T) (engine : String) (file : Option File)
    {start start' : Float} (hstart : T start start') {out out' : Except Halt Payload}
    (hout : Outcome.Alike E Eq out out') :
    Agree S E Eq (finishRender engine file start out) (finishRender engine file start' out') := by
  cases hout with
  | ok hresult =>
    cases hresult
    refine h.readClock.bind fun stop stop' hstop => ?_
    refine (h.locate file).bind_eq fun location => ?_
    exact (h.rendered engine location hstart hstop).bind_eq fun _ => .pure rfl
  | @error halt halt' hhalt =>
    cases halt with
    | tooDeep =>
      cases halt' with
      | tooDeep => exact .throw hhalt
      | fault fault' => exact absurd hhalt h.tooDeep.2
    | fault fault =>
      cases halt' with
      | tooDeep => exact absurd hhalt h.tooDeep.1
      | fault fault' =>
        rw [Session.finishRender, Session.finishRender, h.interrupted hhalt]
        split
        · refine h.readClock.bind fun stop stop' hstop => ?_
          refine (h.locate file).bind_eq fun location => ?_
          exact (h.failed engine location hstart hstop hhalt).bind_eq fun _ => .throw hhalt
        · exact .throw hhalt

/-- **Renders agree as the evaluations in them do.** -/
theorem measured (h : Measures S E T) (engine : String) (file : Option File) {p q : Run Payload}
    (hpq : Agree S E Eq p q) : Agree S E Eq (measured engine file p) (measured engine file q) :=
  h.readClock.bind fun _ _ hstart => hpq.observe.bind fun _ _ hout =>
    h.finishRender engine file hstart hout

end Measures

end AssetPipeline.Session
