/-
AssetPipeline/Proofs/Session/Ending.lean

A loader that is asked comes to an end and leaves a clean cache.

What a loader does when it is asked is laid down by rules (`Asking.Takes`).  A dependency that the
store has is given from there.  Any other name is refused if it comes to no absolute name, and else
the absolute name is imported by the rules of importing.  An import ends whatever is installed, in
circles or with bodies that fail, and the rules leave no choice; so every asking ends, in one way
only, with the cache that the session has afterwards.

Every import leaves a clean cache, and a loader does nothing else to the cache.

Main statements: `Asking.takes_after` for the way an asking takes, `Asking.Takes.unique` by which it
is the only one, and `asking_ends_clean`.
-/
import AssetPipeline.Proofs.Module.Clean
import AssetPipeline.Proofs.Session.Identity

namespace AssetPipeline

namespace Asking

open Session

variable {a : Asking} {events events' : List BodyEvent} {outcome outcome' : Except Fault Unit}
variable {after after' : ModuleCache}

/-! ### The way an asking takes -/

/-- The loader is asked to load a dependency that the store has. -/
def Held (a : Asking) : Prop :=
  ∃ ref library, a.errand = .load ref ∧ (a.now.contents ref).get? a.name = some library

/-- The loader gives what it is asked for. -/
def Answered (a : Asking) : Prop :=
  match a.errand with
  | .require => ∃ m, ((require a.loader a.name a.file).run a.now).1 = .ok m
  | .tryRequire => ∃ m, ((tryRequire a.loader a.name a.file).run a.now).1 = .ok (.success m)
  | .load ref => ∃ library, ((loadLibrary a.loader a.name a.file ref).run a.now).1 = .ok library

/-- The rules for a loader that is asked: `a.Takes events outcome after` says which bodies are run
for it, whether there is something to give, and what becomes of the cache. -/
inductive Takes (a : Asking) : List BodyEvent → Except Fault Unit → ModuleCache → Prop
  | held : a.Held → a.Takes [] (.ok ()) a.now.cache
  | refused {fault : Fault} :
      ¬ a.Held → a.absolute = .error fault → a.Takes [] (.error fault) a.now.cache
  | imported {absolute : String} {events : List BodyEvent} {outcome : Except Fault Unit}
      {after : ModuleCache} :
      ¬ a.Held → a.absolute = .ok absolute →
      Course a.now.installed (.find absolute) a.now.cache events outcome after →
      a.Takes events outcome after

/-- **An asking takes one way only.** -/
theorem Takes.unique (h : a.Takes events outcome after) (h' : a.Takes events' outcome' after') :
    events' = events ∧ outcome' = outcome ∧ after' = after := by
  cases h with
  | held hheld =>
    cases h' with
    | held => exact ⟨rfl, rfl, rfl⟩
    | refused hnot => exact absurd hheld hnot
    | imported hnot => exact absurd hheld hnot
  | refused hnot habs =>
    cases h' with
    | held hheld => exact absurd hheld hnot
    | refused _ habs' =>
      cases habs.symm.trans habs'
      exact ⟨rfl, rfl, rfl⟩
    | imported _ habs' => cases habs.symm.trans habs'
  | imported hnot habs hcourse =>
    cases h' with
    | held hheld => exact absurd hheld hnot
    | refused _ habs' => cases habs.symm.trans habs'
    | imported _ habs' hcourse' =>
      cases habs.symm.trans habs'
      exact hcourse.unique hcourse'

/-- **What an asking takes is clean.** -/
theorem Takes.clean (h : a.Takes events outcome after) :
    Clean a.now.installed a.now.cache events outcome after := by
  cases h with
  | held => exact .nothing ..
  | refused => exact .nothing ..
  | imported _ _ hcourse => exact hcourse.clean

/-! ### Every asking takes its way -/

/-- A dependency that the store has is given, and the cache stays as it is. -/
theorem Held.answered (h : a.Held) : a.Answered ∧ a.after.cache = a.now.cache := by
  obtain ⟨l, name, file, errand, now⟩ := a
  obtain ⟨ref, library, rfl, hheld⟩ := h
  have hrun := run_loadLibrary_found l name file ref hheld
  exact ⟨⟨library, congrArg Prod.fst hrun⟩, congrArg (fun r => r.2.cache) hrun⟩

/-- Any other dependency is given if its import by the loader gives a module, and the cache is the
one after this import. -/
theorem answered_of_not_held (h : ¬ a.Held) :
    (a.Answered ↔
      ∃ m, (a.loader.acquire a.now.installed a.name a.file a.now.cache).1 = .ok m) ∧
      a.after.cache = (a.loader.acquire a.now.installed a.name a.file a.now.cache).2 := by
  obtain ⟨l, name, file, errand, now⟩ := a
  cases errand with
  | require =>
    have hrun := run_require l name file now
    refine ⟨exists_congr fun m => ?_, congrArg (fun r => r.2.cache) hrun⟩
    rw [hrun]
    exact mapError_eq_ok_iff
  | tryRequire =>
    have hrun := run_tryRequire l name file now
    refine ⟨exists_congr fun m => ?_, congrArg (fun r => r.2.cache) hrun⟩
    rw [hrun]
    exact mapError_eq_ok_iff.trans Loader.tried_eq_success_iff
  | load ref =>
    have hnone : (now.contents ref).get? name = none := by
      rcases hheld : (now.contents ref).get? name with _ | library
      · rfl
      · exact absurd ⟨ref, library, rfl, hheld⟩ h
    show ((∃ library, ((loadLibrary l name file ref).run now).1 = .ok library) ↔ _) ∧
      ((loadLibrary l name file ref).run now).2.cache = _
    rw [run_loadLibrary_absent l name file ref hnone, run_require]
    rcases (l.acquire now.installed name file now.cache).1 with fault | m
    · simp [Except.mapError]
    · simp [Except.mapError, Session.stored]

/-- **Every asking takes its way**: the bodies that are run lead to the cache that the session has
afterwards, and without a failure if the loader gives what it is asked for. -/
theorem takes_after (a : Asking) :
    ∃ events outcome, a.Takes events outcome a.after.cache ∧ (outcome = .ok () ↔ a.Answered) := by
  by_cases hheld : a.Held
  · obtain ⟨hanswered, hcache⟩ := hheld.answered
    exact ⟨[], .ok (), hcache ▸ .held hheld, iff_of_true rfl hanswered⟩
  · obtain ⟨hanswered, hcache⟩ := answered_of_not_held hheld
    rcases habs : a.absolute with fault | absolute
    · obtain ⟨refusal, hacq, -⟩ := Loader.acquire_of_meaningless habs
      rw [hacq] at hanswered hcache
      exact ⟨[], .error fault, hcache ▸ .refused hheld habs, by simp [hanswered]⟩
    · obtain ⟨events, hcourse⟩ := course_importName a.now.installed absolute a.now.cache
      rw [Loader.acquire_of_absolute habs] at hanswered hcache
      have htakes := Takes.imported hheld habs hcourse
      refine ⟨events, _, hcache ▸ htakes, ?_⟩
      rw [hanswered]
      rcases (importName a.now.installed absolute a.now.cache).1 with fault | m
      · simp [verdict, Loader.judge_eq_ok_iff]
      · simp [verdict, Loader.judge_eq_ok_iff]

end Asking

namespace Session

/-- **An asking ends and leaves a clean cache.**  Whatever is installed, with imports in circles,
bodies that fail, packages that are missing or none, and names that are barred; whatever is in the
cache, and whichever loader is asked to require, to try or to load whatever name for whatever file:
the loader comes to an end by the rules of importing, in one way only.  The cache that the session
has then is clean: it has all entries that were there before, and besides exactly the modules whose
bodies were run to their end; no body was started twice. -/
theorem asking_ends_clean (a : Asking) :
    ∃ events outcome,
      (∀ events' outcome' after, a.Takes events' outcome' after ↔
        events' = events ∧ outcome' = outcome ∧ after = a.after.cache) ∧
      (outcome = .ok () ↔ a.Answered) ∧
      Clean a.now.installed a.now.cache events outcome a.after.cache := by
  obtain ⟨events, outcome, htakes, hanswered⟩ := a.takes_after
  refine ⟨events, outcome, fun events' outcome' after => ⟨htakes.unique, ?_⟩, hanswered,
    htakes.clean⟩
  rintro ⟨rfl, rfl, rfl⟩
  exact htakes

end Session

end AssetPipeline
