/-
AssetPipeline/Proofs/Engine/Registry.lean

What each operation does to a registry of engines, seen through look-ups.

A registry is seen through two views: the class under a name (`get?`) and the names
that claim an extension (`claimants`).  Claiming an extension puts the name at the end
of the claims, once, however often the extension is given and in whatever spelling;
unregistering a name takes it out of all claims.  An extension without claims has no
entry.

Main statements: `get?_claims_enter` and `claimants_enter` for registration,
`get?_claims_unregister` and `claimants_unregister` for its end, `get?_extensions` for
the engine that handles an extension.
-/
import AssetPipeline.Engine.Registry

namespace AssetPipeline

theorem EngineClass.same_trans {a b c : EngineClass} (hab : a.same b = true)
    (hbc : b.same c = true) : a.same c = true := by
  rcases a with _ | _ | ⟨own₁, base₁⟩ <;> rcases b with _ | _ | ⟨own₂, base₂⟩ <;>
    rcases c with _ | _ | ⟨own₃, base₃⟩ <;> simp_all [EngineClass.same]

namespace Engines

variable {e : Engines} {name key : String} {c : EngineClass} {names extensions : List String}

/-- The names that claim an extension, the latest last. -/
def claimants (e : Engines) (key : String) : List String := e.claims.getD key []

/-- A registry is determined by its two maps. -/
theorem eq_of_maps {e' : Engines} (hclasses : e.classes = e'.classes)
    (hclaims : e.claims = e'.claims) : e = e' := by
  obtain ⟨classes, claims⟩ := e
  cases hclasses
  cases hclaims
  rfl

/-! ### Claims on one extension -/

theorem mem_reclaim {other : String} (h : names.Nodup) :
    other ∈ reclaim name names ↔ other = name ∨ other ∈ names := by
  rw [reclaim, List.mem_append, List.mem_singleton, h.mem_erase_iff]
  by_cases hn : other = name <;> simp [hn]

theorem nodup_reclaim (h : names.Nodup) : (reclaim name names).Nodup := by
  rw [reclaim, List.nodup_append]
  refine ⟨h.erase name, by simp, ?_⟩
  intro a ha b hb
  rw [List.mem_singleton] at hb
  rintro rfl
  exact absurd (hb ▸ ha) h.not_mem_erase

/-- Who has claimed an extension gains nothing by claiming it again. -/
theorem reclaim_reclaim (h : names.Nodup) :
    reclaim name (reclaim name names) = reclaim name names := by
  have hnot : name ∉ names.erase name := h.not_mem_erase
  simp [reclaim, List.erase_append_right _ hnot]

theorem getD_withdraw (name : String) (names : List String) :
    (withdraw name names).getD [] = names.erase name := by
  unfold withdraw
  split
  · next h => exact h.symm
  · rfl

theorem withdraw_ne_nil (name : String) (names : List String) :
    withdraw name names ≠ some [] := by
  unfold withdraw
  split
  · simp
  · next rest hne => simpa using hne

/-! ### Registration -/

/-- The claims after a name has claimed several extensions. -/
theorem get?_foldl_claim (name : String) (extensions : List String)
    (claims : Dict String (List String)) (h : (claims.getD key []).Nodup) :
    (extensions.foldl (claim name) claims).get? key =
      if key ∈ extensions.map Extension.normalize then
        some (reclaim name (claims.getD key []))
      else claims.get? key := by
  induction extensions generalizing claims with
  | nil => simp
  | cons ext rest ih =>
    rw [List.foldl_cons, List.map_cons]
    by_cases hk : key = Extension.normalize ext
    · -- claimed now, and perhaps again by a later spelling
      have hclaim : (claim name claims ext).getD key [] = reclaim name (claims.getD key []) := by
        simp [claim, Dict.getD, hk]
      rw [ih _ (hclaim ▸ nodup_reclaim h), hclaim, reclaim_reclaim h]
      simp [claim, hk]
    · -- not claimed yet; a later extension may be a spelling of it
      have hclaim : (claim name claims ext).get? key = claims.get? key := by
        simp [claim, hk]
      have hgetD : (claim name claims ext).getD key [] = claims.getD key [] := by
        simp [Dict.getD, hclaim]
      rw [ih _ (hgetD ▸ h), hgetD, hclaim]
      simp [hk]

theorem get?_claims_enter (h : (e.claimants key).Nodup) :
    (e.enter name c extensions).claims.get? key =
      if key ∈ extensions.map Extension.normalize then some (reclaim name (e.claimants key))
      else e.claims.get? key :=
  get?_foldl_claim name extensions e.claims h

theorem claimants_enter (h : (e.claimants key).Nodup) :
    (e.enter name c extensions).claimants key =
      if key ∈ extensions.map Extension.normalize then reclaim name (e.claimants key)
      else e.claimants key := by
  rw [claimants, Dict.getD, get?_claims_enter h]
  split <;> rfl

@[simp] theorem get?_enter (other : String) :
    (e.enter name c extensions).get? other = if other = name then some c else e.get? other :=
  Dict.get?_put e.classes name c other

/-- What may be registered is an engine, and the same one that is registered under the name, if
there is one. -/
theorem accept_eq_ok_iff {candidate : Candidate} :
    e.accept name candidate = .ok c ↔
      candidate = .cls c ∧ c.isEngine = true ∧
        ∀ existing, e.get? name = some existing → existing.same c = true := by
  unfold accept get?
  cases candidate with
  | other shown => simp
  | cls c' =>
    by_cases he : c'.isEngine = true
    · rcases hg : e.classes.get? name with _ | existing
      · simp only [he, if_true, Except.ok.injEq, Candidate.cls.injEq]
        constructor
        · rintro rfl
          simp [he]
        · intro h
          exact h.1
      · by_cases hs : existing.same c' = true
        · simp only [he, hs, if_true, Except.ok.injEq, Candidate.cls.injEq, Option.some.injEq]
          constructor
          · rintro rfl
            exact ⟨rfl, he, fun _ h => h ▸ hs⟩
          · intro h
            exact h.1
        · -- another class goes by the name, and nothing else is wrong with this one
          simp only [he, hs, if_true, Candidate.cls.injEq, Option.some.injEq]
          constructor
          · intro h
            cases h
          · rintro ⟨rfl, -, h⟩
            exact absurd (h existing rfl) hs
    · simp only [he, Candidate.cls.injEq]
      constructor
      · intro h
        cases h
      · rintro ⟨rfl, h, -⟩
        exact absurd h he

/-! ### Its end -/

theorem get?_claims_unregister :
    (e.unregister name).claims.get? key = (e.claims.get? key).bind (withdraw name) :=
  Dict.get?_filterMap _ e.claims key

theorem claimants_unregister :
    (e.unregister name).claimants key = (e.claimants key).erase name := by
  rw [claimants, claimants, Dict.getD, Dict.getD, get?_claims_unregister]
  cases e.claims.get? key with
  | none => rfl
  | some names => exact getD_withdraw name names

@[simp] theorem get?_unregister (other : String) :
    (e.unregister name).get? other = if other = name then none else e.get? other :=
  Dict.get?_erase e.classes name other

/-! ### Look-up -/

/-- The latest claimant handles an extension. -/
theorem get?_extensions : e.extensions.get? key = (e.claimants key).getLast? := by
  rw [extensions, Dict.get?_filterMap, claimants, Dict.getD]
  cases e.claims.get? key <;> rfl

end Engines

end AssetPipeline
