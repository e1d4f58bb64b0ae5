/-
AssetPipeline/Proofs/Engine/Withdrawal.lean

What a registry of engines is like after the end of a registration.

An engine that is registered may take extensions over from others, and others may take them
over from it, so that it stands anywhere among the claims.  Its end takes it out of all claims
and drops the extensions that nobody else claims.  That commutes, up to the order of entries,
with whatever happens to other names in between: a registration under another name
(`alike_unregister_enter`) and the end of another registration (`alike_unregister_unregister`).

Main statement: `unregister_enter` says that the end of a registration which has just been made
gives the registry back as it was, the order of its entries included.
-/
import AssetPipeline.Proofs.Dict
import AssetPipeline.Proofs.Engine.Alike
import AssetPipeline.Proofs.Engine.Soundness

namespace AssetPipeline

namespace Engines

variable {e : Engines} {name other key : String} {c : EngineClass} {names extensions : List String}

/-! ### Giving claims up -/

theorem withdraw_eq (name : String) (names : List String) :
    withdraw name names = if names.erase name = [] then none else some (names.erase name) := by
  unfold withdraw
  split
  · next h => rw [if_pos h]
  · next rest hne =>
    rw [if_neg]
    simpa using hne

/-- Two names give claims up in either order. -/
theorem bind_withdraw_comm (name other : String) (names : List String) :
    (withdraw name names).bind (withdraw other) = (withdraw other names).bind (withdraw name) := by
  -- an extension is dropped when both are gone from it, whoever gave it up last
  have hboth : ∀ a b : String, (withdraw a names).bind (withdraw b) =
      if (names.erase a).erase b = [] then none else some ((names.erase a).erase b) := by
    intro a b
    rw [withdraw_eq a]
    split
    · next h => simp [h]
    · exact withdraw_eq b _
  rw [hboth, hboth, List.erase_comm]

/-- Whoever claims an extension anew goes on claiming it when another gives it up. -/
theorem withdraw_reclaim (hne : name ≠ other) (names : List String) :
    withdraw other (reclaim name names) = some (reclaim name (names.erase other)) := by
  have herase : (reclaim name names).erase other = reclaim name (names.erase other) := by
    rw [reclaim, reclaim, List.erase_comm]
    -- the claim made anew is the last one, so `erase` meets `other` before it or not at all
    by_cases hmem : other ∈ names.erase name
    · exact List.erase_append_left _ hmem
    · rw [List.erase_append_right _ hmem, List.erase_of_not_mem hmem]
      simp [hne]
  rw [withdraw_eq, herase, if_neg]
  simp [reclaim]

/-- Who has no claims gives none up. -/
theorem withdraw_of_not_mem (h : name ∉ names) (hne : names ≠ []) :
    withdraw name names = some names := by
  rw [withdraw_eq, List.erase_of_not_mem h, if_neg hne]

/-! ### The end of a registration among others -/

theorem Alike.trans {e₁ e₂ e₃ : Engines} (h : Alike e₁ e₂) (h' : Alike e₂ e₃) : Alike e₁ e₃ where
  classes name := (h.classes name).trans (h'.classes name)
  claims key := (h.claims key).trans (h'.claims key)

/-- The end of another registration has no part in what may be registered under a name. -/
theorem accept_unregister_of_ne (hne : name ≠ other) (candidate : Candidate) :
    (e.unregister other).accept name candidate = e.accept name candidate := by
  have hclasses : (e.unregister other).classes.get? name = e.classes.get? name := by
    show (e.unregister other).get? name = _
    rw [get?_unregister, if_neg hne]
    rfl
  unfold accept
  rw [hclasses]

/-- **The end of one registration and another registration may come in either order.** -/
theorem alike_unregister_enter (hnodup : ∀ key, (e.claimants key).Nodup) (hne : name ≠ other)
    (c : EngineClass) (extensions : List String) :
    Alike ((e.enter name c extensions).unregister other)
      ((e.unregister other).enter name c extensions) where
  classes third := by
    simp only [get?_unregister, get?_enter]
    by_cases hthird : third = other
    · rw [if_pos hthird, if_neg (hthird ▸ hne.symm), if_pos hthird]
    · rw [if_neg hthird, if_neg hthird]
  claims key := by
    have hnodup' : ((e.unregister other).claimants key).Nodup := by
      rw [claimants_unregister]
      exact (hnodup key).erase other
    rw [get?_claims_unregister, get?_claims_enter (hnodup key), get?_claims_enter hnodup',
      claimants_unregister, get?_claims_unregister]
    split
    · exact withdraw_reclaim hne _
    · rfl

/-- **The ends of two registrations may come in either order.** -/
theorem alike_unregister_unregister (e : Engines) (name other : String) :
    Alike ((e.unregister name).unregister other) ((e.unregister other).unregister name) where
  classes third := by
    simp only [get?_unregister]
    split <;> split <;> rfl
  claims key := by
    simp only [get?_claims_unregister]
    cases e.claims.get? key with
    | none => rfl
    | some names => exact bind_withdraw_comm name other names

/-! ### The end of a registration that has just been made -/

/-- Claims put the keys that are new behind those there are, in the order in which they come. -/
theorem keys_foldl_claim (name : String) (extensions : List String)
    (claims : Dict String (List String)) :
    (extensions.foldl (claim name) claims).keys =
      claims.keys ++ (extensions.map Extension.normalize).eraseDups.filter (· ∉ claims.keys) := by
  induction extensions using List.reverseRecOn with
  | nil => simp
  | append_singleton extensions ext ih =>
    have hnew : [Extension.normalize ext].removeAll (extensions.map Extension.normalize) =
        if Extension.normalize ext ∈ extensions.map Extension.normalize then []
        else [Extension.normalize ext] := by
      split
      · next h => simpa [List.removeAll] using h
      · next h => simpa [List.removeAll] using h
    rw [List.foldl_append, List.foldl_cons, List.foldl_nil, claim, Dict.keys_put, ih,
      List.map_append, List.eraseDups_append, List.map_singleton, hnew]
    -- the key is there, or it is given before, or it is new
    have hone : [Extension.normalize ext].eraseDups = [Extension.normalize ext] := rfl
    by_cases hkey : Extension.normalize ext ∈ claims.keys
    · by_cases hgiven : Extension.normalize ext ∈ extensions.map Extension.normalize
      · simp [hkey, hgiven]
      · simp [hkey, hgiven, hone]
    · by_cases hgiven : Extension.normalize ext ∈ extensions.map Extension.normalize
      · simp [hkey, hgiven]
      · simp [hkey, hgiven, hone]

/-- The claimed extensions stand in the order in which they have come to be claimed. -/
theorem keys_enter (e : Engines) (name : String) (c : EngineClass) (extensions : List String) :
    (e.enter name c extensions).claims.keys =
      e.claims.keys ++ (extensions.map Extension.normalize).eraseDups.filter (· ∉ e.claims.keys) :=
  keys_foldl_claim name extensions e.claims

/-- The extensions that are still claimed keep their order. -/
theorem keys_unregister_sublist (e : Engines) (name : String) :
    (e.unregister name).claims.keys.Sublist e.claims.keys :=
  Dict.keys_filterMap_sublist _ e.claims

/-- Who is not registered claims nothing. -/
theorem Sound.not_mem_claimants (h : Sound e) (hnew : e.has name = false) (key : String) :
    name ∉ e.claimants key := by
  intro hmem
  rw [h.registered hmem] at hnew
  cases hnew

theorem Sound.bind_withdraw (h : Sound e) (hnew : e.has name = false) (key : String) :
    (e.claims.get? key).bind (withdraw name) = e.claims.get? key := by
  rcases hget : e.claims.get? key with _ | names
  · rfl
  · have hnot := h.not_mem_claimants hnew key
    rw [claimants_of_get? hget] at hnot
    exact withdraw_of_not_mem hnot (h.claimed hget)

/-- **The end of a registration that has just been made gives the registry back**, the order of its
entries included. -/
theorem Sound.unregister_enter (h : Sound e) (hnew : e.has name = false) (c : EngineClass)
    (extensions : List String) : (e.enter name c extensions).unregister name = e := by
  have hclasses : ((e.enter name c extensions).unregister name).classes = e.classes := by
    have hkey : name ∉ e.classes.keys := by
      rw [← Dict.contains_iff]
      exact Bool.eq_false_iff.1 hnew
    refine Dict.filterMap_eq_of_keys ((Dict.keys_put _ _ _).trans (if_neg hkey)) fun k => ?_
    show ((e.enter name c extensions).unregister name).get? k = e.classes.get? k
    rw [get?_unregister, get?_enter]
    by_cases hk : k = name
    · rw [if_pos hk, hk]
      exact (Dict.get?_eq_none_iff.2 hkey).symm
    · rw [if_neg hk, if_neg hk]
      rfl
  have hclaims : ((e.enter name c extensions).unregister name).claims = e.claims := by
    refine Dict.filterMap_eq_of_keys (keys_enter e name c extensions) fun key => ?_
    show ((e.enter name c extensions).unregister name).claims.get? key = _
    rw [get?_claims_unregister, get?_claims_enter (h.nodup key)]
    split
    · -- what has been put behind the claims is taken away again
      have hnot := h.not_mem_claimants hnew key
      rw [Option.bind_some, withdraw_eq, reclaim, List.erase_of_not_mem hnot,
        List.erase_append_right _ hnot]
      rcases hget : e.claims.get? key with _ | names
      · simp [claimants, Dict.getD, hget]
      · simp [claimants_of_get? hget, h.claimed hget]
    · exact h.bind_withdraw hnew key
  exact eq_of_maps hclasses hclaims

end Engines

end AssetPipeline
