/-
AssetPipeline/Proofs/Engine/Soundness.lean

Which registries of engines there are, and what they have in common.

A registry comes about from the empty one by registrations that are accepted and by ends
of registrations (`Reachable`).  Its two maps then fit together (`Sound`): whoever claims
an extension is registered, an extension that has an entry has claims, each name claims
it once, and its key is in the one spelling of extensions.

Main statements: `sound_of_reachable` for all of that, `Sound.keys_extensions` and
`Sound.get?_extensions` for the reading of who handles what, and `Sound.forLocation_eq_ok`
for the choice of a class by a location, which never ends at a name without a class.
-/
import AssetPipeline.Proofs.Engine.Registry
import AssetPipeline.Proofs.Text.NormalForm

namespace AssetPipeline.Engines

variable {e : Engines} {name key location : String} {c : EngineClass}
  {names extensions : List String} {candidate : Candidate}

/-- A registry that registrations and their ends can bring about. -/
inductive Reachable : Engines → Prop
  | empty : Reachable empty
  | entered {e : Engines} {name : String} {candidate : Candidate} {c : EngineClass}
      (extensions : List String) :
      Reachable e → e.accept name candidate = .ok c → Reachable (e.enter name c extensions)
  | unregistered {e : Engines} (name : String) : Reachable e → Reachable (e.unregister name)

/-- The two maps of the registry fit together. -/
structure Sound (e : Engines) : Prop where
  /-- Only engines are registered. -/
  engine : ∀ {name c}, e.get? name = some c → c.isEngine = true
  /-- An extension with an entry has claims. -/
  claimed : ∀ {key names}, e.claims.get? key = some names → names ≠ []
  /-- Nobody claims an extension twice. -/
  nodup : ∀ key, (e.claimants key).Nodup
  /-- Who claims an extension is registered. -/
  registered : ∀ {name key}, name ∈ e.claimants key → e.has name = true
  /-- Extensions are kept in their one spelling. -/
  spelled : ∀ {key}, key ∈ e.claims.keys → ∃ ext, key = Extension.normalize ext

/-! ### How a registry comes about -/

theorem claimants_of_get? (h : e.claims.get? key = some names) : e.claimants key = names := by
  rw [claimants, Dict.getD, h]
  rfl

theorem mem_keys_of_get? (h : e.claims.get? key = some names) : key ∈ e.claims.keys :=
  Dict.contains_iff.1 (by rw [Dict.contains, h]; rfl)

theorem exists_of_mem_keys (h : key ∈ e.claims.keys) : ∃ names, e.claims.get? key = some names :=
  Option.isSome_iff_exists.1 (Dict.contains_iff.2 h)

theorem has_enter (other : String) :
    (e.enter name c extensions).has other = true ↔ other = name ∨ e.has other = true := by
  show ((e.enter name c extensions).get? other).isSome = true ↔ _ ∨ (e.get? other).isSome = true
  rw [get?_enter]
  split
  · next h => simp [h]
  · next h => simp [h]

theorem has_unregister (other : String) :
    (e.unregister name).has other = true ↔ other ≠ name ∧ e.has other = true := by
  show ((e.unregister name).get? other).isSome = true ↔ _ ∧ (e.get? other).isSome = true
  rw [get?_unregister]
  split
  · next h => simp [h]
  · next h => simp [h]

theorem sound_empty : Sound empty where
  engine h := by cases h
  claimed h := by cases h
  nodup _ := List.nodup_nil
  registered h := by cases h
  spelled h := by cases h

theorem Sound.enter (h : Sound e) (hacc : e.accept name candidate = .ok c)
    (extensions : List String) : Sound (e.enter name c extensions) where
  engine {other c'} hc' := by
    obtain ⟨-, hc, -⟩ := accept_eq_ok_iff.1 hacc
    rw [get?_enter] at hc'
    split at hc'
    · cases hc'
      exact hc
    · exact h.engine hc'
  claimed {key names} hnames := by
    rw [get?_claims_enter (h.nodup key)] at hnames
    split at hnames
    · cases hnames
      simp [reclaim]
    · exact h.claimed hnames
  nodup key := by
    rw [claimants_enter (h.nodup key)]
    split
    · exact nodup_reclaim (h.nodup key)
    · exact h.nodup key
  registered {other key} hmem := by
    rw [claimants_enter (h.nodup key)] at hmem
    rw [has_enter]
    split at hmem
    · exact ((mem_reclaim (h.nodup key)).1 hmem).imp id h.registered
    · exact Or.inr (h.registered hmem)
  spelled {key} hkey := by
    obtain ⟨names, hnames⟩ := exists_of_mem_keys hkey
    rw [get?_claims_enter (h.nodup key)] at hnames
    split at hnames
    · next hmem =>
      obtain ⟨ext, -, rfl⟩ := List.mem_map.1 hmem
      exact ⟨ext, rfl⟩
    · exact h.spelled (mem_keys_of_get? hnames)

theorem Sound.unregister (h : Sound e) (name : String) : Sound (e.unregister name) where
  engine {other c} hc := by
    rw [get?_unregister] at hc
    split at hc
    · cases hc
    · exact h.engine hc
  claimed {key names} hnames := by
    rw [get?_claims_unregister] at hnames
    rintro rfl
    obtain ⟨before, -, hwithdraw⟩ := Option.bind_eq_some_iff.1 hnames
    exact withdraw_ne_nil name before hwithdraw
  nodup key := by
    rw [claimants_unregister]
    exact (h.nodup key).erase name
  registered {other key} hmem := by
    rw [claimants_unregister, (h.nodup key).mem_erase_iff] at hmem
    exact (has_unregister other).2 ⟨hmem.1, h.registered hmem.2⟩
  spelled {key} hkey := h.spelled ((Dict.keys_filterMap_sublist _ e.claims).subset hkey)

/-- **Every registry that can come about is sound.** -/
theorem sound_of_reachable (h : Reachable e) : Sound e := by
  induction h with
  | empty => exact sound_empty
  | entered extensions _ hacc ih => exact ih.enter hacc extensions
  | unregistered name _ ih => exact ih.unregister name

namespace Sound

/-! ### Extensions in their one spelling -/

theorem normalize_key (h : Sound e) (hkey : key ∈ e.claims.keys) :
    Extension.normalize key = key := by
  obtain ⟨ext, rfl⟩ := h.spelled hkey
  exact Extension.normalize_normalize ext

theorem head?_key (h : Sound e) (hkey : key ∈ e.claims.keys) : key.toList.head? = some '.' := by
  obtain ⟨ext, rfl⟩ := h.spelled hkey
  exact Extension.head?_normalize ext

/-! ### Who handles an extension -/

/-- There is a latest claimant of every extension with an entry, and it has a class. -/
theorem exists_latest (h : Sound e) (hnames : e.claims.get? key = some names) :
    ∃ name c, names.getLast? = some name ∧ e.get? name = some c := by
  obtain ⟨name, hlast⟩ := Option.isSome_iff_exists.1
    (List.getLast?_isSome.2 (h.claimed hnames))
  have hmem : name ∈ e.claimants key := by
    rw [claimants_of_get? hnames]
    exact List.mem_of_getLast? hlast
  obtain ⟨c, hc⟩ := Option.isSome_iff_exists.1 (h.registered hmem)
  exact ⟨name, c, hlast, hc⟩

/-- The reading of who handles what leaves no extension out. -/
theorem keys_extensions (h : Sound e) : e.extensions.keys = e.claims.keys := by
  refine Dict.keys_filterMap ?_
  intro key names hnames
  exact List.getLast?_isSome.2 (h.claimed hnames)

/-- **The class for a location is that of the engine which handles its suffix.** -/
theorem forLocation_eq_ok (h : Sound e) (hnames : e.claims.get? (suffixKey location) = some names) :
    ∃ name c, e.extensions.get? (suffixKey location) = some name ∧ e.get? name = some c ∧
      e.forLocation location = .ok c := by
  obtain ⟨name, c, hlast, hc⟩ := h.exists_latest hnames
  refine ⟨name, c, ?_, hc, ?_⟩
  · rw [get?_extensions, claimants_of_get? hnames, hlast]
  · simp only [forLocation, hnames, Option.bind_some, hlast, resolve, hc]

end Sound

end AssetPipeline.Engines
