/-
AssetPipeline/Proofs/Session/Nesting.lean

How deep renders may nest makes no difference to what they do.

A render that would nest too deep stops in a way of its own, and so does everything around it.
Every other run is the same whatever depth is allowed beyond what it takes (`GoesAsDeep`): it is the
run of the program itself, and the bound only says whether it comes to an end.

Main statements: `goesAsDeep_render` for renders and `goesAsDeep_evaluate` for evaluations.
-/
import AssetPipeline.Proofs.Session.Congruence

namespace AssetPipeline.Session

variable {α β : Type} {depth depth' : Nat}

/-- The second program does what the first one does, unless that nests renders too deep. -/
def GoesAsDeep (p q : Run α) : Prop :=
  ∀ s, (p.run s).1 = .error .tooDeep ∨ q.run s = p.run s

namespace GoesAsDeep

theorem refl (p : Run α) : GoesAsDeep p p := fun _ => .inr rfl

/-- What nests too deep leaves the session to nobody else. -/
theorem bind {p q : Run α} {f g : α → Run β} (hpq : GoesAsDeep p q)
    (hfg : ∀ a, GoesAsDeep (f a) (g a)) : GoesAsDeep (p >>= f) (q >>= g) := by
  intro s
  rcases hpq s with hdeep | hsame
  · rcases hrun : p.run s with ⟨out, after⟩
    rw [hrun] at hdeep
    subst hdeep
    rw [run_bind_error hrun]
    exact .inl rfl
  · rcases hrun : p.run s with ⟨halt | a, after⟩
    · rw [run_bind_error hrun, run_bind_error (hsame.trans hrun)]
      exact .inr rfl
    · rw [run_bind_ok hrun, run_bind_ok (hsame.trans hrun)]
      exact hfg a after

/-- A render around an evaluation that nests too deep lets that pass. -/
theorem measured (engine : String) (file : Option File) {p q : Run Payload}
    (h : GoesAsDeep p q) : GoesAsDeep (measured engine file p) (measured engine file q) := by
  refine bind (.refl readClock) fun start s => ?_
  rcases h s with hdeep | hsame
  · have hobserve : (observe p).run s = (.ok (.error .tooDeep), (p.run s).2) := by
      rw [run_observe, hdeep]
    rw [run_bind_ok hobserve]
    exact .inl rfl
  · have hobserve : (observe q).run s = (observe p).run s := by
      rw [run_observe, run_observe, hsame]
    rw [run_bind, run_bind, hobserve]
    exact .inr rfl

end GoesAsDeep

instance : Congruence GoesAsDeep where
  bind := .bind
  oblivious _ := .refl _
  recorded _ := .refl _
  created _ _ _ _ _ _ := .refl _
  measuring := .measured

/-- **A render that ends does the same if renders may nest deeper.** -/
theorem goesAsDeep_render (h : depth ≤ depth') (engines : Nat) (engine : String)
    (file : Option (Traced File)) (data : Payload) (context : Json) (bindings : Option Bindings) :
    GoesAsDeep (render depth engines engine file data context bindings)
      (render depth' engines engine file data context bindings) := by
  induction depth generalizing depth' engines engine file data context bindings with
  | zero => exact fun s => .inl rfl
  | succ depth ih =>
    obtain ⟨deeper, rfl⟩ : ∃ deeper, depth' = deeper + 1 := ⟨depth' - 1, by omega⟩
    exact congruent_rendering GoesAsDeep (ih (by omega)) _ _ _ _ _ _

/-- **So does an evaluation.** -/
theorem goesAsDeep_evaluate (h : depth ≤ depth') (t : Template) (context : Json)
    (bindings : Option Bindings) :
    GoesAsDeep (evaluate depth t context bindings) (evaluate depth' t context bindings) := by
  apply congruent_evaluateAs GoesAsDeep
  intro engines engine data
  exact goesAsDeep_render h engines engine t.file data context bindings

end AssetPipeline.Session
