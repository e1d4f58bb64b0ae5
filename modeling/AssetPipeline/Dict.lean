/-
AssetPipeline/Dict.lean

Finite maps that remember the order in which their keys were first written.

A `Dict κ α` is a list of entries without repeated keys.  Writing to a key that
is present changes its value and keeps its place; erasing a key and writing it
again puts it at the end.  Everything else is stated through two views: the
look-up `get?` and the list `keys`.

Main statements: `get?_put`, `get?_erase` and `get?_filterMap` give the look-up
after each operation, `keys_put`, `keys_erase` the order of the keys, and
`size_erase_lt` says that erasing a present key makes the map smaller, which is
what recursion over a shrinking map needs.
-/

namespace AssetPipeline

universe u v w

/-- A finite map from `κ` to `α`, ordered by first write. -/
structure Dict (κ : Type u) (α : Type v) where
  /-- The entries, first written first. -/
  entries : List (κ × α)
  /-- No key occurs twice. -/
  nodup : (entries.map Prod.fst).Nodup
  deriving DecidableEq

namespace Dict

variable {κ : Type u} {α : Type v} {β : Type w}

/-- The map without entries. -/
def empty : Dict κ α := ⟨[], List.nodup_nil⟩

instance : Inhabited (Dict κ α) := ⟨empty⟩

/-- The keys in the order of their first write. -/
def keys (d : Dict κ α) : List κ := d.entries.map Prod.fst

/-- The values, in the order of the keys. -/
def values (d : Dict κ α) : List α := d.entries.map Prod.snd

/-- The number of entries. -/
def size (d : Dict κ α) : Nat := d.entries.length

@[simp] theorem keys_empty : (empty : Dict κ α).keys = [] := rfl

@[simp] theorem size_empty : (empty : Dict κ α).size = 0 := rfl

theorem keys_nodup (d : Dict κ α) : d.keys.Nodup := d.nodup

@[simp] theorem length_keys (d : Dict κ α) : d.keys.length = d.size := by
  simp [keys, size]

/-! ### Rebuilding entries -/

/-- Keep and change entries; an entry for which `f` gives nothing is dropped. -/
def filterEntries (f : κ → α → Option β) (l : List (κ × α)) : List (κ × β) :=
  l.filterMap fun e => (f e.1 e.2).map fun b => (e.1, b)

theorem map_fst_filterEntries_sublist (f : κ → α → Option β) (l : List (κ × α)) :
    ((filterEntries f l).map Prod.fst).Sublist (l.map Prod.fst) := by
  induction l with
  | nil => exact List.Sublist.slnil
  | cons e rest ih =>
    rcases h : f e.1 e.2 with _ | b
    · simpa [filterEntries, h] using ih.cons e.1
    · simpa [filterEntries, h] using ih.cons_cons e.1

/-- Change every value by `f`, dropping the keys for which `f` gives nothing. -/
def filterMap (f : κ → α → Option β) (d : Dict κ α) : Dict κ β :=
  ⟨filterEntries f d.entries, (map_fst_filterEntries_sublist f d.entries).nodup d.nodup⟩

theorem keys_filterMap_sublist (f : κ → α → Option β) (d : Dict κ α) :
    (d.filterMap f).keys.Sublist d.keys :=
  map_fst_filterEntries_sublist f d.entries

section
variable [DecidableEq κ]

/-! ### Look-up -/

/-- The value under `k`. -/
def get? (d : Dict κ α) (k : κ) : Option α := d.entries.lookup k

/-- Whether `k` has a value. -/
def contains (d : Dict κ α) (k : κ) : Bool := (d.get? k).isSome

/-- The value under `k`, or `a` when there is none. -/
def getD (d : Dict κ α) (k : κ) (a : α) : α := (d.get? k).getD a

theorem isSome_lookup_iff {k : κ} {l : List (κ × α)} :
    (l.lookup k).isSome ↔ k ∈ l.map Prod.fst := by
  induction l with
  | nil => simp
  | cons e rest ih =>
    obtain ⟨a, b⟩ := e
    by_cases h : k = a
    · simp [h]
    · have hb : (k == a) = false := by simpa using h
      simp only [List.lookup_cons, hb, ih, List.map_cons, List.mem_cons, h, false_or]

theorem contains_iff {d : Dict κ α} {k : κ} : d.contains k = true ↔ k ∈ d.keys :=
  isSome_lookup_iff

theorem get?_eq_none_iff {d : Dict κ α} {k : κ} : d.get? k = none ↔ k ∉ d.keys := by
  rw [← contains_iff, contains]
  cases d.get? k <;> simp

/-- The entries are the keys with their values. -/
theorem mem_entries_iff {d : Dict κ α} {e : κ × α} : e ∈ d.entries ↔ d.get? e.1 = some e.2 := by
  have h : ∀ l : List (κ × α), (l.map Prod.fst).Nodup → (e ∈ l ↔ l.lookup e.1 = some e.2) := by
    intro l hl
    induction l with
    | nil => simp
    | cons first rest ih =>
      rw [List.map_cons, List.nodup_cons] at hl
      obtain ⟨k, v⟩ := e
      obtain ⟨a, b⟩ := first
      by_cases hk : k = a
      · -- no other entry has this key
        subst hk
        have hrest : (k, v) ∉ rest := fun hmem => hl.1 (List.mem_map.2 ⟨(k, v), hmem, rfl⟩)
        simp [hrest, eq_comm]
      · have hb : (k == a) = false := by simpa using hk
        simp [List.lookup_cons, hb, hk, ih hl.2]
  exact h d.entries d.nodup

@[simp] theorem get?_empty (k : κ) : (empty : Dict κ α).get? k = none := rfl

@[simp] theorem contains_empty (k : κ) : (empty : Dict κ α).contains k = false := rfl

/-! ### Writing -/

/-- Write `v` under `k`: in place when `k` is there, at the end when it is not. -/
def putEntry (k : κ) (v : α) : List (κ × α) → List (κ × α)
  | [] => [(k, v)]
  | e :: rest => if e.1 = k then (k, v) :: rest else e :: putEntry k v rest

theorem map_fst_putEntry (k : κ) (v : α) (l : List (κ × α)) :
    (putEntry k v l).map Prod.fst =
      if k ∈ l.map Prod.fst then l.map Prod.fst else l.map Prod.fst ++ [k] := by
  induction l with
  | nil => simp [putEntry]
  | cons e rest ih =>
    by_cases h : e.1 = k
    · simp [putEntry, h]
    · have h' : k ≠ e.1 := fun hk => h hk.symm
      by_cases hm : k ∈ rest.map Prod.fst
      · simp only [putEntry, h, if_false, List.map_cons, ih, hm, if_true, List.mem_cons,
          or_true]
      · simp only [putEntry, h, if_false, List.map_cons, ih, hm, List.mem_cons, h', or_self,
          List.cons_append]

theorem nodup_putEntry (k : κ) (v : α) {l : List (κ × α)} (h : (l.map Prod.fst).Nodup) :
    ((putEntry k v l).map Prod.fst).Nodup := by
  rw [map_fst_putEntry]
  split
  · exact h
  · next hk =>
    refine List.nodup_append.2 ⟨h, by simp, ?_⟩
    intro a ha b hb
    simp only [List.mem_cons, List.not_mem_nil, or_false] at hb
    rintro rfl
    exact hk (hb ▸ ha)

/-- The map with `v` under `k`. -/
def put (d : Dict κ α) (k : κ) (v : α) : Dict κ α :=
  ⟨putEntry k v d.entries, nodup_putEntry k v d.nodup⟩

theorem lookup_putEntry (k : κ) (v : α) (l : List (κ × α)) (k' : κ) :
    (putEntry k v l).lookup k' = if k' = k then some v else l.lookup k' := by
  induction l with
  | nil =>
    by_cases h : k' = k
    · simp [putEntry, h]
    · have hb : (k' == k) = false := by simpa using h
      simp [putEntry, List.lookup_cons, hb, h]
  | cons e rest ih =>
    obtain ⟨a, b⟩ := e
    by_cases he : a = k
    · by_cases h : k' = k
      · simp [putEntry, he, h]
      · have hb : (k' == k) = false := by simpa using h
        simp [putEntry, he, h, List.lookup_cons, hb]
    · by_cases h : k' = a
      · have hk : k' ≠ k := fun hk => he (h ▸ hk)
        simp [putEntry, he, h]
      · have hb : (k' == a) = false := by simpa using h
        simp only [putEntry, he, if_false, List.lookup_cons, hb, ih]

@[simp] theorem get?_put (d : Dict κ α) (k : κ) (v : α) (k' : κ) :
    (d.put k v).get? k' = if k' = k then some v else d.get? k' :=
  lookup_putEntry k v d.entries k'

theorem keys_put (d : Dict κ α) (k : κ) (v : α) :
    (d.put k v).keys = if k ∈ d.keys then d.keys else d.keys ++ [k] :=
  map_fst_putEntry k v d.entries

/-! ### Erasing -/

/-- The map without an entry for `k`. -/
def erase (d : Dict κ α) (k : κ) : Dict κ α :=
  d.filterMap fun k' v => if k' = k then none else some v

theorem lookup_filterEntries (f : κ → α → Option β) (k : κ) {l : List (κ × α)}
    (h : (l.map Prod.fst).Nodup) :
    (filterEntries f l).lookup k = (l.lookup k).bind (f k) := by
  induction l with
  | nil => rfl
  | cons e rest ih =>
    rw [List.map_cons, List.nodup_cons] at h
    have ih := ih h.2
    obtain ⟨a, v⟩ := e
    have hcons : filterEntries f ((a, v) :: rest) =
        ((f a v).map fun b => (a, b)).toList ++ filterEntries f rest := by
      rcases hf : f a v with _ | b <;> simp [filterEntries, hf]
    rw [hcons]
    by_cases hk : k = a
    · subst hk
      have hrest : rest.lookup k = none :=
        Option.not_isSome_iff_eq_none.1 (mt isSome_lookup_iff.1 h.1)
      rcases hf : f k v with _ | b
      · simp [ih, hrest, hf]
      · simp [hf]
    · have hb : (k == a) = false := by simpa using hk
      rcases hf : f a v with _ | b
      · simp [ih, List.lookup_cons, hb]
      · simp [ih, List.lookup_cons, hb]

@[simp] theorem get?_filterMap (f : κ → α → Option β) (d : Dict κ α) (k : κ) :
    (d.filterMap f).get? k = (d.get? k).bind (f k) :=
  lookup_filterEntries f k d.nodup

/-- A key that keeps a value keeps its place. -/
theorem keys_filterMap {f : κ → α → Option β} {d : Dict κ α}
    (h : ∀ k v, d.get? k = some v → (f k v).isSome = true) : (d.filterMap f).keys = d.keys := by
  have hentries : ∀ l : List (κ × α), (∀ e ∈ l, (f e.1 e.2).isSome = true) →
      (filterEntries f l).map Prod.fst = l.map Prod.fst := by
    intro l hl
    induction l with
    | nil => rfl
    | cons e rest ih =>
      obtain ⟨b, hb⟩ := Option.isSome_iff_exists.1 (hl e List.mem_cons_self)
      have hrest := ih fun e' he' => hl e' (List.mem_cons_of_mem e he')
      rw [List.map_cons, ← hrest]
      simp [filterEntries, hb]
  exact hentries d.entries fun e he => h e.1 e.2 (mem_entries_iff.1 he)

@[simp] theorem get?_erase (d : Dict κ α) (k k' : κ) :
    (d.erase k).get? k' = if k' = k then none else d.get? k' := by
  rw [erase, get?_filterMap]
  by_cases h : k' = k
  · cases d.get? k' <;> simp [h]
  · cases d.get? k' <;> simp [h]

theorem map_fst_eraseEntries (k : κ) (l : List (κ × α)) :
    (filterEntries (fun k' v => if k' = k then none else some v) l).map Prod.fst =
      (l.map Prod.fst).filter (· ≠ k) := by
  induction l with
  | nil => rfl
  | cons e rest ih =>
    by_cases h : e.1 = k
    · simpa [filterEntries, h] using ih
    · simpa [filterEntries, h] using ih

theorem keys_erase (d : Dict κ α) (k : κ) : (d.erase k).keys = d.keys.filter (· ≠ k) :=
  map_fst_eraseEntries k d.entries

/-- Erasing a present key makes the map smaller. -/
theorem size_erase_lt {d : Dict κ α} {k : κ} {v : α} (h : d.get? k = some v) :
    (d.erase k).size < d.size := by
  have hk : k ∈ d.keys := contains_iff.1 (by simp [contains, h])
  rw [← length_keys, ← length_keys, keys_erase]
  refine List.length_filter_lt_length_iff_exists.2 ⟨k, hk, ?_⟩
  simp

/-! ### Collecting -/

/-- Write the pairs of a list one after the other. -/
def ofList (l : List (κ × α)) : Dict κ α :=
  l.foldl (fun d e => d.put e.1 e.2) empty

end

end Dict

end AssetPipeline
