/-
AssetPipeline/Proofs/Engine/Acceptance.lean

Which registrations a registry of engines accepts, and what they change.

A candidate is refused if it is no class with the template class above it, or else if a class
from another declaration goes by the name (`Refused`).  Everything else is accepted.  An accepted
class goes by the name from then on, and the name moves to the end of the claims on each
extension that is given; nothing else changes, and the other names keep their order among the
claims (`Enrolled`).

Main statements: `accept_eq_error_iff` for what is refused and why, `Sound.enrolled` for what is
accepted, and `Sound.enter_enter` by which the same registration once more changes nothing, not
even the order of entries.
-/
import AssetPipeline.Proofs.Engine.Withdrawal

namespace AssetPipeline

namespace EngineClass

/-- A class and those above it, the nearest first. -/
def ancestry : EngineClass → List EngineClass
  | .root => [.root]
  | .template => [.template, .root]
  | .derived own base => .derived own base :: base.ancestry

/-- An engine has the template class in its ancestry, however far up. -/
theorem isEngine_iff {c : EngineClass} : c.isEngine = true ↔ .template ∈ c.ancestry := by
  induction c with
  | root => simp [isEngine, ancestry]
  | template => simp [isEngine, ancestry]
  | derived own base ih => simp [isEngine, ancestry, ih]

end EngineClass

namespace Engines

variable {e : Engines} {name : String} {c : EngineClass} {extensions : List String}
  {candidate : Candidate} {why : EngineRefusal}

/-! ### What is refused -/

/-- The candidate may not be registered under the name, for this reason. -/
inductive Refused (e : Engines) (name : String) : Candidate → EngineRefusal → Prop
  | value (shown : String) : Refused e name (.other shown) (.notAnEngine name shown)
  | outsider {c : EngineClass} :
      .template ∉ c.ancestry → Refused e name (.cls c) (.notAnEngine name c.inspect)
  | taken {c existing : EngineClass} :
      .template ∈ c.ancestry → e.get? name = some existing → existing.same c = false →
      Refused e name (.cls c) (.nameTaken name existing.name c.name)

/-- **What is refused, and why.** -/
theorem accept_eq_error_iff :
    e.accept name candidate = .error why ↔ e.Refused name candidate why := by
  constructor
  · intro h
    unfold accept at h
    split at h
    · next shown =>
      cases h
      exact .value shown
    · next c =>
      split at h
      · next hengine =>
        have hancestry := EngineClass.isEngine_iff.1 hengine
        split at h
        · next existing hexisting =>
          split at h
          · cases h
          · next hsame =>
            cases h
            exact .taken hancestry hexisting (by simpa using hsame)
        · cases h
      · next hengine =>
        cases h
        exact .outsider (mt EngineClass.isEngine_iff.2 hengine)
  · intro h
    cases h with
    | value shown => rfl
    | outsider hancestry =>
      have hengine := mt EngineClass.isEngine_iff.1 hancestry
      simp [accept, hengine]
    | taken hancestry hexisting hsame =>
      have hengine := EngineClass.isEngine_iff.2 hancestry
      have hclass : e.classes.get? name = some _ := hexisting
      simp [accept, hengine, hclass, hsame]

/-- There are two reasons to refuse a candidate: it is no engine class, or another class goes by the
name. -/
theorem exists_refused_iff :
    (∃ why, e.Refused name candidate why) ↔
      (¬ ∃ c, candidate = .cls c ∧ .template ∈ c.ancestry) ∨
        ∃ c existing, candidate = .cls c ∧ e.get? name = some existing ∧
          existing.same c = false := by
  constructor
  · rintro ⟨why, hwhy⟩
    cases hwhy with
    | value shown =>
      left
      rintro ⟨c, hc, -⟩
      cases hc
    | outsider hancestry =>
      left
      rintro ⟨c, hc, hmem⟩
      cases hc
      exact hancestry hmem
    | taken _ hexisting hsame => exact .inr ⟨_, _, rfl, hexisting, hsame⟩
  · rintro (hno | ⟨c, existing, rfl, hexisting, hsame⟩)
    · cases candidate with
      | other shown => exact ⟨_, .value shown⟩
      | cls c => exact ⟨_, .outsider fun hmem => hno ⟨c, rfl, hmem⟩⟩
    · -- a class that is no engine is refused for that, whoever goes by the name
      by_cases hancestry : .template ∈ c.ancestry
      · exact ⟨_, .taken hancestry hexisting hsame⟩
      · exact ⟨_, .outsider hancestry⟩

/-! ### What is accepted -/

/-- What becomes of a registry in which a class is registered under a name for some extensions. -/
structure Enrolled (e : Engines) (name : String) (c : EngineClass) (extensions : List String)
    (after : Engines) : Prop where
  bound : after.get? name = some c
  /-- No other name has another class than before. -/
  others : ∀ other, other ≠ name → after.get? other = e.get? other
  /-- The name is the latest claimant of what it is given, and claims that once. -/
  claimed : ∀ key ∈ extensions.map Extension.normalize,
    after.claimants key = (e.claimants key).erase name ++ [name]
  /-- The other names keep their order among all claims. -/
  ordered : ∀ key,
    (after.claimants key).filter (· ≠ name) = (e.claimants key).filter (· ≠ name)
  /-- All other claims are as they were. -/
  unclaimed : ∀ key, key ∉ extensions.map Extension.normalize →
    after.claims.get? key = e.claims.get? key

theorem filter_reclaim (name : String) (names : List String) :
    (reclaim name names).filter (· ≠ name) = names.filter (· ≠ name) := by
  have herase : (names.erase name).filter (· ≠ name) = names.filter (· ≠ name) := by
    induction names with
    | nil => rfl
    | cons first rest ih =>
      by_cases hfirst : first = name
      · subst hfirst
        simp
      · have hbeq : (first == name) = false := by simpa using hfirst
        simpa [List.erase_cons, hbeq, hfirst] using ih
  rw [reclaim, List.filter_append, herase]
  simp

/-- **What an accepted registration changes.** -/
theorem Sound.enrolled (h : Sound e) (name : String) (c : EngineClass)
    (extensions : List String) :
    Enrolled e name c extensions (e.enter name c extensions) where
  bound := by rw [get?_enter, if_pos rfl]
  others other hother := by rw [get?_enter, if_neg hother]
  claimed key hkey := by
    rw [claimants_enter (h.nodup key), if_pos hkey]
    rfl
  ordered key := by
    rw [claimants_enter (h.nodup key)]
    split
    · exact filter_reclaim name (e.claimants key)
    · rfl
  unclaimed key hkey := by rw [get?_claims_enter (h.nodup key), if_neg hkey]

/-- **The same registration once more changes nothing**, not even the order of entries. -/
theorem Sound.enter_enter (h : Sound e) (name : String) (c : EngineClass)
    (extensions : List String) :
    (e.enter name c extensions).enter name c extensions = e.enter name c extensions := by
  have hclasses : ((e.enter name c extensions).enter name c extensions).classes =
      (e.enter name c extensions).classes :=
    Dict.put_of_get? (h.enrolled name c extensions).bound
  have hnodup : ∀ key, ((e.enter name c extensions).claimants key).Nodup := by
    intro key
    rw [claimants_enter (h.nodup key)]
    split
    · exact nodup_reclaim (h.nodup key)
    · exact h.nodup key
  have hclaims : ((e.enter name c extensions).enter name c extensions).claims =
      (e.enter name c extensions).claims := by
    refine Dict.eq_of_keys ?_ fun key => ?_
    · -- every extension that is given has an entry already
      rw [keys_enter, List.append_right_eq_self, List.filter_eq_nil_iff]
      intro key hkey
      have hgiven : key ∈ extensions.map Extension.normalize := List.mem_eraseDups.1 hkey
      have hentry : (e.enter name c extensions).claims.get? key =
          some (reclaim name (e.claimants key)) := by
        rw [get?_claims_enter (h.nodup key), if_pos hgiven]
      simpa using mem_keys_of_get? hentry
    · rw [get?_claims_enter (hnodup key)]
      split
      · next hgiven =>
        -- who has claimed it gains nothing by claiming it again
        rw [claimants_enter (h.nodup key), get?_claims_enter (h.nodup key), if_pos hgiven,
          if_pos hgiven, reclaim_reclaim (h.nodup key)]
      · rfl
  exact eq_of_maps hclasses hclaims

end Engines

end AssetPipeline
