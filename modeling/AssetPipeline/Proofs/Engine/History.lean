/-
AssetPipeline/Proofs/Engine/History.lean

A registry of engines as its history has it.

The history of a registry is the list of the calls that had an effect on it, in order:
registrations, with their class and their extensions as they were spelled, and ends of
registrations.  Only what came since the last end of a name counts for that name
(`since`).  The history says which class a name has, and who claims an extension: the
names that claimed it since their end, in the order of their latest claims
(`ClaimOrder`).  The registry itself keeps no history, only a class for each name and
a list of names for each extension, which it changes in place.

Main statements: `refines_enter` and `refines_unregister` say that every call which has
an effect keeps registry and history in step, and `Refines.extensions_unregister` that
the end of the latest claimant gives the extension back to the one before it.
-/
import AssetPipeline.Proofs.Engine.Registry

namespace AssetPipeline.Engines

variable {e : Engines} {name other key : String} {c : EngineClass} {extensions : List String}

/-! ### Histories -/

/-- A call that had an effect on a registry. -/
inductive Edit where
  | registered (name : String) (cls : EngineClass) (extensions : List String)
  | unregistered (name : String)
  deriving DecidableEq

namespace Edit

/-- The class that the edit gives to a name. -/
def classFor? (name : String) : Edit → Option EngineClass
  | .registered n c _ => if n = name then some c else none
  | .unregistered _ => none

/-- Whether the edit makes a name claim an extension, in whatever spelling. -/
def claims (name key : String) : Edit → Bool
  | .registered n _ extensions => n == name && (extensions.map Extension.normalize).contains key
  | .unregistered _ => false

end Edit

/-- What happened since `name` was last unregistered. -/
def since (name : String) (history : List Edit) : List Edit :=
  (history.reverse.takeWhile (· ≠ .unregistered name)).reverse

/-- The classes registered under `name` since it was last unregistered. -/
def registrations (name : String) (history : List Edit) : List EngineClass :=
  (since name history).filterMap (Edit.classFor? name)

/-- How long ago `name` last claimed `key`, in edits. -/
def claimAge (name key : String) (history : List Edit) : Nat :=
  history.reverse.findIdx (Edit.claims name key)

/-- The names that claimed an extension since they were last unregistered, each once, in the order
of their latest claims. -/
structure ClaimOrder (key : String) (history : List Edit) (names : List String) : Prop where
  nodup : names.Nodup
  mem_iff : ∀ name, name ∈ names ↔ ∃ edit ∈ since name history, edit.claims name key = true
  sorted : names.Pairwise fun a b => claimAge b key history < claimAge a key history

/-- A history leaves no choice for the claims on an extension. -/
theorem ClaimOrder.unique {history : List Edit} {names names' : List String}
    (h : ClaimOrder key history names) (h' : ClaimOrder key history names') : names = names' := by
  have hperm : names.Perm names' := by
    rw [List.perm_ext_iff_of_nodup h.nodup h'.nodup]
    intro name
    rw [h.mem_iff, h'.mem_iff]
  refine hperm.eq_of_pairwise ?_ h.sorted h'.sorted
  intro a b _ _ hab hba
  exact absurd hab (Nat.lt_asymm hba)

/-- The registry is what its history says. -/
structure Refines (history : List Edit) (e : Engines) : Prop where
  /-- A name has the class of its registrations, all of which gave it the same one. -/
  cls : ∀ name, e.get? name = (registrations name history).getLast?
  same : ∀ name c, e.get? name = some c → ∀ c' ∈ registrations name history, c'.same c = true
  /-- An extension is claimed by those who claimed it, in order. -/
  order : ∀ key, ClaimOrder key history (e.claimants key)
  /-- An extension without claims has no entry. -/
  entry : ∀ key, e.claims.get? key ≠ some []

/-! ### One more edit -/

variable {history : List Edit} {edit : Edit}

theorem since_append (name : String) (history : List Edit) (edit : Edit) :
    since name (history ++ [edit]) =
      if edit = .unregistered name then [] else since name history ++ [edit] := by
  by_cases h : edit = .unregistered name
  · simp [since, h]
  · simp [since, h]

theorem claimAge_append (name key : String) (history : List Edit) (edit : Edit) :
    claimAge name key (history ++ [edit]) =
      if edit.claims name key then 0 else claimAge name key history + 1 := by
  rw [claimAge, List.reverse_append, List.reverse_singleton, List.singleton_append,
    List.findIdx_cons]
  cases edit.claims name key <;> rfl

theorem registrations_append (name : String) (history : List Edit) (edit : Edit) :
    registrations name (history ++ [edit]) =
      if edit = .unregistered name then []
      else registrations name history ++ (edit.classFor? name).toList := by
  rw [registrations, since_append]
  split
  · rfl
  · rw [List.filterMap_append]
    rcases h : edit.classFor? name with _ | c <;> simp [registrations, h]

/-- An edit that claims nothing keeps the claims, but for a name that it ends. -/
theorem ClaimOrder.of_append {names kept : List String} (h : ClaimOrder key history names)
    (hno : ∀ name, edit.claims name key = false) (hsub : kept.Sublist names)
    (hkept : ∀ name, name ∈ kept ↔ name ∈ names ∧ edit ≠ .unregistered name) :
    ClaimOrder key (history ++ [edit]) kept where
  nodup := h.nodup.sublist hsub
  mem_iff name := by
    rw [hkept, h.mem_iff, since_append]
    by_cases he : edit = .unregistered name
    · simp [he]
    · simp [he, hno name]
  sorted := by
    refine (h.sorted.sublist hsub).imp ?_
    intro a b hab
    simpa [claimAge_append, hno a, hno b] using hab

/-- The name that claims an extension comes last, as its claim is the latest. -/
theorem ClaimOrder.append_claim {names : List String} (h : ClaimOrder key history names)
    (hclaim : edit.claims name key = true)
    (hother : ∀ other, other ≠ name → edit.claims other key = false)
    (hlive : ∀ other, edit ≠ .unregistered other) :
    ClaimOrder key (history ++ [edit]) (reclaim name names) where
  nodup := nodup_reclaim h.nodup
  mem_iff other := by
    rw [mem_reclaim h.nodup, h.mem_iff, since_append, if_neg (hlive other)]
    by_cases hn : other = name
    · simp [hn, hclaim]
    · simp [hn, hother other hn]
  sorted := by
    rw [reclaim, List.pairwise_append]
    refine ⟨?_, List.pairwise_singleton _ _, ?_⟩
    · -- the others grow older by the same edit
      refine (h.sorted.sublist List.erase_sublist).imp_of_mem ?_
      intro a b ha hb hab
      have hna := (h.nodup.mem_erase_iff.1 ha).1
      have hnb := (h.nodup.mem_erase_iff.1 hb).1
      simpa [claimAge_append, hother a hna, hother b hnb] using hab
    · -- the claim has just been made, and all others were made before
      intro a ha b hb
      have hna := (h.nodup.mem_erase_iff.1 ha).1
      rw [List.mem_singleton] at hb
      simp [claimAge_append, hb, hclaim, hother a hna]

/-! ### The registry keeps step -/

/-- The registry without engines is that of no history. -/
theorem refines_empty : Refines [] empty where
  cls _ := rfl
  same _ _ h := by cases h
  order _ :=
    { nodup := List.nodup_nil
      mem_iff := by simp [since, claimants, empty, Dict.getD]
      sorted := List.Pairwise.nil }
  entry _ h := by cases h

theorem registrations_registered (other : String) :
    registrations other (history ++ [.registered name c extensions]) =
      registrations other history ++ if other = name then [c] else [] := by
  rw [registrations_append, if_neg (by simp)]
  by_cases hn : other = name
  · simp [Edit.classFor?, hn]
  · simp [Edit.classFor?, hn, Ne.symm hn]

/-- A name without a class has no registrations since its end. -/
theorem Refines.registrations_eq_nil (h : Refines history e) (hnone : e.get? name = none) :
    registrations name history = [] := by
  rw [h.cls, List.getLast?_eq_none_iff] at hnone
  exact hnone

theorem claims_registered (other : String) :
    (Edit.registered name c extensions).claims other key = true ↔
      name = other ∧ key ∈ extensions.map Extension.normalize := by
  simp [Edit.claims]

/-- **A registration that is accepted keeps registry and history in step.** -/
theorem refines_enter {candidate : Candidate} (h : Refines history e)
    (hok : e.accept name candidate = .ok c) :
    Refines (history ++ [.registered name c extensions]) (e.enter name c extensions) where
  cls other := by
    rw [get?_enter, registrations_registered]
    split
    · simp
    · simpa using h.cls other
  same other c₁ hc₁ c₂ hc₂ := by
    obtain ⟨-, -, hsame⟩ := accept_eq_ok_iff.1 hok
    rw [get?_enter] at hc₁
    rw [registrations_registered] at hc₂
    by_cases hn : other = name
    · subst hn
      rw [if_pos rfl] at hc₁ hc₂
      obtain rfl : c = c₁ := Option.some.inj hc₁
      rcases List.mem_append.1 hc₂ with hold | hnew
      · -- an earlier registration gave the class that is still there
        rcases hg : e.get? other with _ | existing
        · rw [h.registrations_eq_nil hg] at hold
          cases hold
        · exact EngineClass.same_trans (h.same other existing hg c₂ hold) (hsame existing hg)
      · rw [List.mem_singleton.1 hnew]
        exact EngineClass.same_self c
    · rw [if_neg hn] at hc₁ hc₂
      rw [List.append_nil] at hc₂
      exact h.same other c₁ hc₁ c₂ hc₂
  order key := by
    have hnodup := (h.order key).nodup
    rw [claimants_enter hnodup]
    -- the edit claims the extension for this name and no other, or it claims it for nobody
    split
    · next hk =>
      refine (h.order key).append_claim ?_ ?_ ?_
      · exact (claims_registered name).2 ⟨rfl, hk⟩
      · intro other hn
        rw [Bool.eq_false_iff]
        intro hc
        exact hn ((claims_registered other).1 hc).1.symm
      · intro other
        simp
    · next hk =>
      refine (h.order key).of_append ?_ (List.Sublist.refl _) ?_
      · intro other
        rw [Bool.eq_false_iff]
        intro hc
        exact hk ((claims_registered other).1 hc).2
      · intro other
        simp
  entry key := by
    rw [get?_claims_enter (h.order key).nodup]
    split
    · simp [reclaim]
    · exact h.entry key

/-- **The end of a name keeps registry and history in step.** -/
theorem refines_unregister (h : Refines history e) (name : String) :
    Refines (history ++ [.unregistered name]) (e.unregister name) where
  cls other := by
    rw [get?_unregister, registrations_append]
    by_cases hn : other = name
    · simp [hn]
    · simp [hn, Ne.symm hn, Edit.classFor?, h.cls other]
  same other c₁ hc₁ c₂ hc₂ := by
    rw [get?_unregister] at hc₁
    rw [registrations_append] at hc₂
    by_cases hn : other = name
    · simp [hn] at hc₁
    · simp only [hn, if_false] at hc₁
      simp only [Edit.unregistered.injEq, Ne.symm hn, if_false, Edit.classFor?, Option.toList_none,
        List.append_nil] at hc₂
      exact h.same other c₁ hc₁ c₂ hc₂
  order key := by
    rw [claimants_unregister]
    refine (h.order key).of_append ?_ List.erase_sublist ?_
    · intro other
      rfl
    · intro other
      rw [(h.order key).nodup.mem_erase_iff]
      simp [and_comm, eq_comm]
  entry key := by
    rw [get?_claims_unregister]
    rcases e.claims.get? key with _ | names
    · simp
    · exact withdraw_ne_nil name names

/-! ### What follows for the claims -/

/-- An extension has an entry exactly if it has claims. -/
theorem Refines.get?_claims (h : Refines history e) :
    e.claims.get? key = if e.claimants key = [] then none else some (e.claimants key) := by
  have hentry := h.entry key
  rw [claimants, Dict.getD]
  rcases hg : e.claims.get? key with _ | names
  · rfl
  · have hne : names ≠ [] := by
      rintro rfl
      exact hentry hg
    simp [hne]

/-- Who claims an extension is registered. -/
theorem Refines.has_of_mem (h : Refines history e) (hmem : name ∈ e.claimants key) :
    e.has name = true := by
  obtain ⟨edit, hedit, hclaims⟩ := ((h.order key).mem_iff name).1 hmem
  -- the edit by which it claims the extension is one of its registrations
  have hreg : registrations name history ≠ [] := by
    rcases edit with ⟨n, c, extensions⟩ | n
    · obtain ⟨rfl, -⟩ := (claims_registered name).1 hclaims
      refine List.ne_nil_of_mem (a := c) ?_
      refine List.mem_filterMap.2 ⟨_, hedit, ?_⟩
      simp [Edit.classFor?]
    · cases hclaims
  show (e.get? name).isSome = true
  rw [h.cls]
  exact List.getLast?_isSome.2 hreg

/-- **When the latest claimant is unregistered, the one before it handles the extension again.** -/
theorem Refines.extensions_unregister (h : Refines history e)
    (hlast : (e.claimants key).getLast? = some name) :
    (e.unregister name).extensions.get? key = (e.claimants key).dropLast.getLast? := by
  obtain ⟨earlier, hsplit⟩ := List.getLast?_eq_some_iff.1 hlast
  have hnodup := (h.order key).nodup
  rw [get?_extensions, claimants_unregister, hsplit, List.dropLast_concat]
  rw [hsplit] at hnodup
  have hnot : name ∉ earlier := by
    intro hmem
    exact (List.nodup_append.1 hnodup).2.2 name hmem name (List.mem_singleton_self name) rfl
  rw [List.erase_append_right _ hnot]
  simp

end AssetPipeline.Engines
