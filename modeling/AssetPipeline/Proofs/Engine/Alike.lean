/-
AssetPipeline/Proofs/Engine/Alike.lean

Registries of engines that differ in nothing but the order of their entries.

Two registries are alike if look-ups in their maps give the same, the claims on an extension
in the same order.  They then have the same names and the same claimed extensions, in one
order or another, so whatever is asked of them has the same answer up to that order.
Registrations and their ends keep registries alike.

Two registrations under different names that claim different extensions have no part of the
maps in common: whichever comes first, the registries that come out are alike.

Main statements: `Alike.enter` and `Alike.unregister`, `Alike.resolve`, `Alike.forLocation`
and `Alike.entries_extensions` for what is asked, and `alike_enter_enter` for the order of two
registrations.
-/
import AssetPipeline.Proofs.Engine.Registry
import AssetPipeline.Proofs.Fault.Order
import Mathlib.Data.List.Nodup

namespace AssetPipeline

/-- Maps with the same values have the same keys, in one order or another. -/
theorem Dict.keys_perm {κ α : Type} [DecidableEq κ] {d d' : Dict κ α}
    (h : ∀ k, d.get? k = d'.get? k) : d.keys.Perm d'.keys := by
  refine (List.perm_ext_iff_of_nodup d.keys_nodup d'.keys_nodup).2 ?_
  intro k
  rw [← Dict.contains_iff, ← Dict.contains_iff, Dict.contains, Dict.contains, h k]

theorem Dict.entries_nodup {κ α : Type} [DecidableEq κ] (d : Dict κ α) : d.entries.Nodup :=
  List.Nodup.of_map Prod.fst d.nodup

/-- Maps with the same values have the same entries, in one order or another. -/
theorem Dict.entries_perm {κ α : Type} [DecidableEq κ] {d d' : Dict κ α}
    (h : ∀ k, d.get? k = d'.get? k) : d.entries.Perm d'.entries := by
  refine (List.perm_ext_iff_of_nodup d.entries_nodup d'.entries_nodup).2 ?_
  intro entry
  rw [Dict.mem_entries_iff, Dict.mem_entries_iff, h entry.1]

/-- Outcomes that are alike as far as their values are, or their faults. -/
inductive Outcome.Alike {ε α β : Type} (E : ε → ε → Prop) (V : α → β → Prop) :
    Except ε α → Except ε β → Prop
  | ok {a : α} {b : β} : V a b → Alike E V (.ok a) (.ok b)
  | error {fault fault' : ε} : E fault fault' → Alike E V (.error fault) (.error fault')

theorem Outcome.alike_self {ε α : Type} {E : ε → ε → Prop} (hE : ∀ e, E e e)
    (outcome : Except ε α) : Outcome.Alike E Eq outcome outcome := by
  cases outcome with
  | ok a => exact .ok rfl
  | error e => exact .error (hE e)

/-- Outcomes that are alike with equal values and equal faults are equal. -/
theorem Outcome.Alike.eq {ε α : Type} {outcome outcome' : Except ε α}
    (h : Outcome.Alike Eq Eq outcome outcome') : outcome = outcome' := by
  cases h with
  | ok hvalue => rw [hvalue]
  | error hfault => rw [hfault]

namespace Engines

variable {e e' : Engines} {name : String} {c : EngineClass} {extensions : List String}

/-- Registries that differ in nothing but the order of their entries. -/
structure Alike (e e' : Engines) : Prop where
  classes : ∀ name, e.get? name = e'.get? name
  claims : ∀ key, e.claims.get? key = e'.claims.get? key

theorem alike_refl (e : Engines) : Alike e e := ⟨fun _ => rfl, fun _ => rfl⟩

/-! ### Claims on single extensions -/

/-- Who claims an extension after several claims depends only on who has claimed it before. -/
theorem get?_foldl_claim_congr {claims claims' : Dict String (List String)} {key : String}
    (h : claims.get? key = claims'.get? key) :
    (extensions.foldl (claim name) claims).get? key =
      (extensions.foldl (claim name) claims').get? key := by
  induction extensions generalizing claims claims' with
  | nil => exact h
  | cons ext rest ih =>
    refine ih ?_
    simp only [claim, Dict.get?_put]
    by_cases hkey : key = Extension.normalize ext
    · rw [if_pos hkey, if_pos hkey, Dict.getD, Dict.getD, ← hkey, h]
    · rw [if_neg hkey, if_neg hkey, h]

/-- Claims leave every other extension alone. -/
theorem get?_foldl_claim_of_not_mem {claims : Dict String (List String)} {key : String}
    (h : key ∉ extensions.map Extension.normalize) :
    (extensions.foldl (claim name) claims).get? key = claims.get? key := by
  induction extensions generalizing claims with
  | nil => rfl
  | cons ext rest ih =>
    rw [List.map_cons, List.mem_cons, not_or] at h
    rw [List.foldl_cons, ih h.2, claim, Dict.get?_put, if_neg h.1]

namespace Alike

/-! ### What keeps registries alike -/

theorem enter (h : Alike e e') (name : String) (c : EngineClass) (extensions : List String) :
    Alike (e.enter name c extensions) (e'.enter name c extensions) where
  classes other := by rw [get?_enter, get?_enter, h.classes other]
  claims key := get?_foldl_claim_congr (h.claims key)

theorem unregister (h : Alike e e') (name : String) :
    Alike (e.unregister name) (e'.unregister name) where
  classes other := by rw [get?_unregister, get?_unregister, h.classes other]
  claims key := by rw [get?_claims_unregister, get?_claims_unregister, h.claims key]

/-! ### What is asked of registries that are alike -/

theorem accept (h : Alike e e') (name : String) (candidate : Candidate) :
    e.accept name candidate = e'.accept name candidate := by
  have hclasses : e.classes.get? name = e'.classes.get? name := h.classes name
  unfold Engines.accept
  rw [hclasses]

theorem has (h : Alike e e') (name : String) : e.has name = e'.has name := by
  have hclasses : e.classes.get? name = e'.classes.get? name := h.classes name
  rw [Engines.has, Engines.has, Dict.contains, Dict.contains, hclasses]

theorem names (h : Alike e e') : e.names = e'.names :=
  sortTexts_eq_of_perm (Dict.keys_perm h.classes)

/-- The reading of who handles what is the same map. -/
theorem entries_extensions (h : Alike e e') : e.extensions.entries.Perm e'.extensions.entries := by
  refine Dict.entries_perm ?_
  intro key
  rw [get?_extensions, get?_extensions, claimants, claimants, Dict.getD, Dict.getD, h.claims key]

theorem resolve (h : Alike e e') (name : String) :
    Outcome.Alike Fault.Alike Eq (e.resolve name) (e'.resolve name) := by
  rw [Engines.resolve, Engines.resolve, h.classes name]
  cases e'.get? name with
  | some c => exact .ok rfl
  | none => exact .error (.reordered name (Dict.keys_perm h.classes))

theorem forLocation (h : Alike e e') (location : String) :
    Outcome.Alike Fault.Alike Eq (e.forLocation location) (e'.forLocation location) := by
  rw [Engines.forLocation, Engines.forLocation]
  simp only [h.claims (suffixKey location)]
  cases (e'.claims.get? (suffixKey location)).bind List.getLast? with
  | some name => exact h.resolve name
  | none => exact .error (.reordered _ (Dict.keys_perm h.claims))

end Alike

/-! ### The order of two registrations -/

variable {other : String} {c' : EngineClass} {extensions' : List String}

/-- What another name is given has no part in what may be registered under a name. -/
theorem accept_enter_of_ne (h : name ≠ other) (candidate : Candidate) :
    (e.enter other c' extensions').accept name candidate = e.accept name candidate := by
  have hclasses : (e.enter other c' extensions').classes.get? name = e.classes.get? name := by
    show (e.enter other c' extensions').get? name = _
    rw [get?_enter, if_neg h]
    rfl
  unfold accept
  rw [hclasses]

/-- **Two registrations with nothing in common may come in either order.** -/
theorem alike_enter_enter (hname : name ≠ other)
    (hext : ∀ key ∈ extensions.map Extension.normalize,
      key ∉ extensions'.map Extension.normalize) :
    Alike ((e.enter name c extensions).enter other c' extensions')
      ((e.enter other c' extensions').enter name c extensions) where
  classes third := by
    simp only [get?_enter]
    by_cases hthird : third = name
    · rw [if_pos hthird, if_neg (hthird ▸ hname), if_pos hthird]
    · rw [if_neg hthird, if_neg hthird]
  claims key := by
    show (extensions'.foldl (claim other) (extensions.foldl (claim name) e.claims)).get? key =
      (extensions.foldl (claim name) (extensions'.foldl (claim other) e.claims)).get? key
    -- at most one of the two claims the extension
    by_cases hkey : key ∈ extensions.map Extension.normalize
    · rw [get?_foldl_claim_of_not_mem (hext key hkey)]
      exact get?_foldl_claim_congr (get?_foldl_claim_of_not_mem (hext key hkey)).symm
    · rw [get?_foldl_claim_of_not_mem hkey]
      exact get?_foldl_claim_congr (get?_foldl_claim_of_not_mem hkey)

end Engines

end AssetPipeline
