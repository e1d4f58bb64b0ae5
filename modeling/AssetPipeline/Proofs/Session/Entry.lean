/-
AssetPipeline/Proofs/Session/Entry.lean

One entry of a store of libraries, from one asking to the next.

Under one name, a store changes where it is emptied, where the name is written, and where a loader
is asked to load the name.  If a run does nothing of the first two kinds, that is if its uses spare
the name (`Spares`), the entry is the same from the start to the first asking, from the end of each
asking to the next one, and from the last one on.

Main statement: `linked_sameEntry` for the steps of a session.
-/
import AssetPipeline.Proofs.Session.Telling

namespace AssetPipeline

/-- The use neither empties the store nor writes under the name, unless to load it. -/
def Use.Spares (name : String) : Use → Prop
  | .emptied => False
  | .written other _ => other ≠ name
  | .loaded .. => True

/-- A use that spares the name, and loads nothing, leaves its entry alone. -/
theorem UseStep.get?_of_spares {content next : Dict String Object} {use : Use} {name : String}
    (h : UseStep content use next) (hspares : use.Spares name) (hload : use.isLoad = false) :
    next.get? name = content.get? name := by
  cases h with
  | emptied => exact absurd hspares id
  | written other library =>
    have hne : name ≠ other := Ne.symm hspares
    rw [Dict.get?_put, if_neg hne]
  | found => cases hload
  | imported => cases hload

theorem Replays.get?_of_spares {content next : Dict String Object} {uses : List Use} {name : String}
    (h : Replays content uses next) (hspares : ∀ use ∈ uses, use.Spares name)
    (hload : ∀ use ∈ uses, use.isLoad = false) : next.get? name = content.get? name := by
  induction uses generalizing content with
  | nil => rw [show next = content from h]
  | cons use rest ih =>
    obtain ⟨middle, hstep, hrest⟩ := h
    have hfirst := hstep.get?_of_spares (hspares use List.mem_cons_self)
      (hload use List.mem_cons_self)
    rw [ih hrest, hfirst]
    · exact fun use' hmem => hspares use' (List.mem_cons_of_mem use hmem)
    · exact fun use' hmem => hload use' (List.mem_cons_of_mem use hmem)

namespace Session

variable {s : Session} {store : Nat} {name : String}

theorem mem_usesAt {uses : List (Nat × Use)} {use : Use} :
    use ∈ usesAt store uses ↔ (store, use) ∈ uses := by
  simp [usesAt]

/-- The store has under the name what it had. -/
def SameEntry (store : Nat) (name : String) (s after : Session) : Prop :=
  (after.storeAt store).get? name = (s.storeAt store).get? name

instance : Telling (SameEntry store name)
    (fun use => use.1 = store → use.2.Spares name) where
  refl _ := rfl
  trans _ _ _ h h' := Eq.trans h' h
  overlook _ _ _ _ _ := rfl
  acquired _ _ _ _ := rfl
  written _ _ _ := rfl
  entered _ _ := rfl
  rendered _ _ _ := rfl
  used huses _ s hallowed := by
    refine (huses s store).get?_of_spares ?_ ?_
    · exact fun use hmem => (hallowed _ (mem_usesAt.1 hmem)).1 rfl
    · exact fun use hmem => (hallowed _ (mem_usesAt.1 hmem)).2

/-- **Between the askings of a run, nothing changes an entry that its uses spare.** -/
theorem linked_sameEntry {requests : List Request}
    (hspares : ∀ use ∈ usesAt store (allUses requests s), use.Spares name) :
    Linked (SameEntry store name) s (allAskings requests s) (afterAll requests s) := by
  refine linked_allAskings ?_ ?_
  · intro r _ change _
    exact keeps_performModules (fun _ _ _ => rfl) change
  · rintro ⟨id, use⟩ hmem rfl
    exact hspares use (mem_usesAt.2 hmem)

end Session

end AssetPipeline
