/-
AssetPipeline/Proofs/Dict.lean

When two finite maps are the same one.

A map is determined by its keys in order and by its look-up (`eq_of_keys`).  So writing what is
there already changes nothing, and a map to which keys have been added comes back when it loses
them.

Main statements: `get?_ofList` and `keys_ofList` for what writing pairs one after the other comes
to.  The last value of a key stays, in the place of the first one; without repeated keys, all pairs
stay as they are (`entries_ofList`).
-/
import AssetPipeline.Dict
import Mathlib.Data.List.Induction

namespace AssetPipeline

/-! ### Maps by their keys in order -/

/-- A part of a list without repeats, in the order of the list, is what the list has of it. -/
theorem eq_filter_of_sublist {α : Type} [DecidableEq α] {part whole : List α}
    (h : part.Sublist whole) (hnodup : whole.Nodup) : part = whole.filter (· ∈ part) := by
  induction h with
  | slnil => rfl
  | @cons part whole a hsub ih =>
    rw [List.nodup_cons] at hnodup
    have hnot : a ∉ part := fun hmem => hnodup.1 (hsub.subset hmem)
    rw [List.filter_cons_of_neg (by simpa using hnot)]
    exact ih hnodup.2
  | @cons_cons part whole a hsub ih =>
    rw [List.nodup_cons] at hnodup
    rw [List.filter_cons_of_pos (by simp)]
    congr 1
    have hcongr : whole.filter (· ∈ a :: part) = whole.filter (· ∈ part) := by
      refine List.filter_congr fun b hb => ?_
      have hne : b ≠ a := fun heq => hnodup.1 (heq ▸ hb)
      simp [hne]
    rw [hcongr]
    exact ih hnodup.2

namespace Dict

variable {κ α β : Type} [DecidableEq κ]

/-- A map is determined by its keys in order and its values. -/
theorem eq_of_keys {d d' : Dict κ α} (hkeys : d.keys = d'.keys)
    (hget : ∀ k, d.get? k = d'.get? k) : d = d' := by
  have hentries : ∀ l l' : List (κ × α), (l.map Prod.fst).Nodup →
      l.map Prod.fst = l'.map Prod.fst → (∀ k, l.lookup k = l'.lookup k) → l = l' := by
    intro l
    induction l with
    | nil =>
      intro l' _ hl' _
      exact (List.map_eq_nil_iff.1 hl'.symm).symm
    | cons e rest ih =>
      rintro (_ | ⟨e', rest'⟩) hnodup hmap hlookup
      · cases hmap
      · obtain ⟨k, v⟩ := e
        obtain ⟨k', v'⟩ := e'
        simp only [List.map_cons, List.cons.injEq] at hmap
        obtain ⟨rfl, hmap⟩ := hmap
        rw [List.map_cons, List.nodup_cons] at hnodup
        have hv : v = v' := by simpa using hlookup k
        subst hv
        congr 1
        refine ih rest' hnodup.2 hmap fun j => ?_
        by_cases hj : j = k
        · -- no other entry has this key
          have hnone : rest.lookup j = none :=
            Option.not_isSome_iff_eq_none.1 (mt isSome_lookup_iff.1 (hj ▸ hnodup.1))
          have hnone' : rest'.lookup j = none :=
            Option.not_isSome_iff_eq_none.1 (mt isSome_lookup_iff.1 (hmap ▸ hj ▸ hnodup.1))
          rw [hnone, hnone']
        · have hb : (j == k) = false := by simpa using hj
          simpa [List.lookup_cons, hb] using hlookup j
  obtain ⟨entries, hnodup⟩ := d
  obtain ⟨entries', hnodup'⟩ := d'
  have heq : entries = entries' := hentries entries entries' hnodup hkeys hget
  subst heq
  rfl

/-- A map to which keys have been added comes back if it loses what has been added. -/
theorem filterMap_eq_of_keys {f : κ → α → Option α} {d d' : Dict κ α} {added : List κ}
    (hkeys : d'.keys = d.keys ++ added) (hget : ∀ k, (d'.filterMap f).get? k = d.get? k) :
    d'.filterMap f = d := by
  have hmem : ∀ k, k ∈ (d'.filterMap f).keys ↔ k ∈ d.keys := by
    intro k
    rw [← contains_iff, ← contains_iff, contains, contains, hget]
  have hnodup : (d.keys ++ added).Nodup := hkeys ▸ d'.keys_nodup
  refine eq_of_keys ?_ hget
  -- the keys that are left keep their order, and those are the ones in front
  rw [eq_filter_of_sublist (keys_filterMap_sublist f d') d'.keys_nodup, hkeys, List.filter_append]
  have hkept : d.keys.filter (· ∈ (d'.filterMap f).keys) = d.keys := by
    refine List.filter_eq_self.2 fun k hk => ?_
    simpa [hmem] using hk
  have hlost : added.filter (· ∈ (d'.filterMap f).keys) = [] := by
    refine List.filter_eq_nil_iff.2 fun k hk => ?_
    have hnot : k ∉ d.keys := fun hold => (List.nodup_append.1 hnodup).2.2 k hold k hk rfl
    simpa [hmem] using hnot
  rw [hkept, hlost, List.append_nil]

/-- Writing what is there already changes nothing. -/
theorem put_of_get? {d : Dict κ α} {k : κ} {v : α} (h : d.get? k = some v) : d.put k v = d := by
  have hk : k ∈ d.keys := contains_iff.1 (by simp [contains, h])
  refine eq_of_keys ((keys_put d k v).trans (if_pos hk)) fun k' => ?_
  rw [get?_put]
  split
  · next heq => rw [heq, h]
  · rfl

/-! ### Collecting -/

theorem ofList_concat (l : List (κ × α)) (k : κ) (v : α) :
    ofList (l ++ [(k, v)]) = (ofList l).put k v := by
  rw [ofList, List.foldl_append]
  rfl

/-- The last value of a key stays. -/
theorem get?_ofList (l : List (κ × α)) (k : κ) : (ofList l).get? k = l.reverse.lookup k := by
  induction l using List.reverseRecOn with
  | nil => rfl
  | append_singleton l e ih =>
    obtain ⟨a, v⟩ := e
    rw [ofList_concat, get?_put, ih, List.reverse_concat]
    by_cases h : k = a
    · simp [h]
    · have hb : (k == a) = false := by simpa using h
      simp [List.lookup_cons, hb, h]

/-- The keys are in the order in which they come first. -/
theorem keys_ofList (l : List (κ × α)) : (ofList l).keys = (l.map Prod.fst).eraseDups := by
  induction l using List.reverseRecOn with
  | nil => rfl
  | append_singleton l e ih =>
    obtain ⟨a, v⟩ := e
    rw [ofList_concat, keys_put, ih, List.map_append, List.eraseDups_append, List.map_singleton]
    by_cases h : a ∈ l.map Prod.fst
    · have hnone : [a].removeAll (l.map Prod.fst) = [] := by simpa [List.removeAll] using h
      rw [if_pos (List.mem_eraseDups.2 h), hnone, List.eraseDups_nil, List.append_nil]
    · have hall : [a].removeAll (l.map Prod.fst) = [a] := by simpa [List.removeAll] using h
      rw [if_neg (mt List.mem_eraseDups.1 h), hall]
      rfl

/-- A new key goes to the end. -/
theorem putEntry_of_not_mem {k : κ} {v : α} {l : List (κ × α)} (h : k ∉ l.map Prod.fst) :
    putEntry k v l = l ++ [(k, v)] := by
  induction l with
  | nil => rfl
  | cons e rest ih =>
    rw [List.map_cons, List.mem_cons, not_or] at h
    rw [putEntry, if_neg (Ne.symm h.1), ih h.2]
    rfl

/-- Pairs without repeated keys are kept as they are. -/
theorem entries_ofList {l : List (κ × α)} (h : (l.map Prod.fst).Nodup) :
    (ofList l).entries = l := by
  induction l using List.reverseRecOn with
  | nil => rfl
  | append_singleton l e ih =>
    obtain ⟨k, v⟩ := e
    rw [List.map_append, List.map_singleton, List.nodup_append] at h
    have hfresh : k ∉ l.map Prod.fst := fun hk => h.2.2 k hk k (by simp) rfl
    rw [ofList_concat]
    show putEntry k v (ofList l).entries = _
    rw [ih h.1, putEntry_of_not_mem hfresh]

theorem ofList_entries (d : Dict κ α) : ofList d.entries = d := by
  have hentries := entries_ofList d.nodup
  obtain ⟨entries, hnodup⟩ := d
  exact eq_of_keys (congrArg (List.map Prod.fst) hentries) fun k =>
    congrArg (List.lookup k) hentries

end Dict

end AssetPipeline
