/-
AssetPipeline/Proofs/Fault/Order.lean

Reports on unknown engines and the order of what is known.

A report on an unknown engine lists what there is.  Its suggestions, its message and its
fields put the names in an order of their own: texts by their order, close names by score and
then by that order.  Both orders leave no ties but between equal texts, so sorting forgets in
which order the names were given.

Main statements: `closeNames_eq_of_perm` for suggestions, `message_eq_of_alike` and
`contract?_eq_of_alike` for faults that differ in nothing but the order of what is known, and
`unknownEngine_blind_to_order` for the whole report.
-/
import AssetPipeline.Fault
import Mathlib.Algebra.Order.Ring.Unbundled.Rat

namespace AssetPipeline

variable {known known' : List String}

/-! ### Sorting -/

/-- Sorting by an order without ties forgets the order of the list. -/
theorem mergeSort_eq_of_perm {α : Type} {le : α → α → Bool} {l l' : List α}
    (htrans : ∀ a b c, le a b = true → le b c = true → le a c = true)
    (htotal : ∀ a b, (le a b || le b a) = true)
    (hantisymm : ∀ a b, le a b = true → le b a = true → a = b) (h : l.Perm l') :
    l.mergeSort le = l'.mergeSort le := by
  have hsorted := List.pairwise_mergeSort htrans htotal
  refine List.Perm.eq_of_pairwise ?_ (hsorted l) (hsorted l') ?_
  · intro a b _ _ hab hba
    exact hantisymm a b hab hba
  · exact (List.mergeSort_perm l le).trans (h.trans (List.mergeSort_perm l' le).symm)

theorem sortTexts_eq_of_perm (h : known.Perm known') : sortTexts known = sortTexts known' := by
  refine mergeSort_eq_of_perm ?_ ?_ ?_ h
  · intro a b c hab hbc
    simp only [decide_eq_true_eq] at *
    exact String.le_trans hab hbc
  · intro a b
    simp only [Bool.or_eq_true, decide_eq_true_eq]
    exact String.le_total a b
  · intro a b hab hba
    simp only [decide_eq_true_eq] at *
    exact String.le_antisymm hab hba

namespace Similarity

theorem ranksBefore_iff {x y : Scored} :
    ranksBefore x y = true ↔ y.1 < x.1 ∨ x.1 = y.1 ∧ y.2 ≤ x.2 := by
  rw [ranksBefore, decide_eq_true_eq]

theorem ranksBefore_trans (x y z : Scored) (hxy : ranksBefore x y = true)
    (hyz : ranksBefore y z = true) : ranksBefore x z = true := by
  rw [ranksBefore_iff] at *
  rcases hxy with hxy | ⟨hxy, hle⟩
  · rcases hyz with hyz | ⟨hyz, -⟩
    · exact Or.inl (lt_trans hyz hxy)
    · exact Or.inl (hyz ▸ hxy)
  · rcases hyz with hyz | ⟨hyz, hle'⟩
    · exact Or.inl (hxy ▸ hyz)
    · exact Or.inr ⟨hxy.trans hyz, String.le_trans hle' hle⟩

theorem ranksBefore_total (x y : Scored) : (ranksBefore x y || ranksBefore y x) = true := by
  rw [Bool.or_eq_true, ranksBefore_iff, ranksBefore_iff]
  rcases lt_trichotomy x.1 y.1 with hlt | heq | hlt
  · exact Or.inr (Or.inl hlt)
  · rcases String.le_total x.2 y.2 with hle | hle
    · exact Or.inr (Or.inr ⟨heq.symm, hle⟩)
    · exact Or.inl (Or.inr ⟨heq, hle⟩)
  · exact Or.inl (Or.inl hlt)

/-- Only equal texts with equal scores tie. -/
theorem ranksBefore_antisymm (x y : Scored) (hxy : ranksBefore x y = true)
    (hyx : ranksBefore y x = true) : x = y := by
  rw [ranksBefore_iff] at *
  rcases hxy with hxy | ⟨heq, hle⟩
  · rcases hyx with hyx | ⟨heq, -⟩
    · exact absurd hyx (lt_asymm hxy)
    · exact absurd hxy (heq ▸ lt_irrefl x.1)
  · rcases hyx with hyx | ⟨-, hle'⟩
    · exact absurd hyx (heq ▸ lt_irrefl x.1)
    · exact Prod.ext heq (String.le_antisymm hle' hle)

/-- **Close names do not depend on the order of what is known.** -/
theorem closeNames_eq_of_perm (key : String) (h : known.Perm known') :
    closeNames key known = closeNames key known' := by
  have hsort := mergeSort_eq_of_perm ranksBefore_trans ranksBefore_total ranksBefore_antisymm
    (h.filterMap (scored? key))
  rw [closeNames, closeNames, hsort]

/-- Close names are known. -/
theorem mem_of_mem_closeNames {key name : String} (h : name ∈ closeNames key known) :
    name ∈ known := by
  rw [closeNames, List.mem_map] at h
  obtain ⟨⟨score, found⟩, hmem, rfl⟩ := h
  have hscored := List.mem_mergeSort.1 (List.mem_of_mem_take hmem)
  obtain ⟨source, hsource, hscore⟩ := List.mem_filterMap.1 hscored
  have hfound : source = found := by
    simp only [scored?] at hscore
    split at hscore
    · split at hscore
      · cases hscore
        rfl
      · cases hscore
    · cases hscore
  rw [← hfound]
  exact hsource

end Similarity

/-! ### Reports -/

theorem unknownEngineMessage_eq_of_perm (key : String) (h : known.Perm known') :
    unknownEngineMessage key known = unknownEngineMessage key known' := by
  unfold unknownEngineMessage
  rw [Similarity.closeNames_eq_of_perm key h, sortTexts_eq_of_perm h, h.length_eq]
  -- whether anything is known at all does not depend on the order either
  cases known with
  | nil => rw [h.nil_eq]
  | cons first rest =>
    cases known' with
    | nil => exact absurd h.length_eq (by simp)
    | cons first' rest' => rfl

namespace Fault

/-- Faults that differ in nothing but the order in which a report on an unknown engine lists what is
known. -/
inductive Alike : Fault → Fault → Prop
  | same (fault : Fault) : Alike fault fault
  | reordered (key : String) {known known' : List String} : known.Perm known' →
    Alike (.engineUnknown key known) (.engineUnknown key known')

variable {fault fault' : Fault}

theorem kind_eq_of_alike (h : Alike fault fault') : fault.kind = fault'.kind := by
  cases h <;> rfl

theorem generalKinds_eq_of_alike (h : Alike fault fault') :
    fault.generalKinds = fault'.generalKinds := by
  cases h <;> rfl

theorem isInterruption_eq_of_alike (h : Alike fault fault') :
    fault.isInterruption = fault'.isInterruption := by
  cases h <;> rfl

theorem message_eq_of_alike (h : Alike fault fault') : fault.message = fault'.message := by
  cases h with
  | same => rfl
  | reordered key hperm => exact unknownEngineMessage_eq_of_perm key hperm

/-- **What a fault tells a caller in fields does not depend on the order**, suggestions included. -/
theorem contract?_eq_of_alike (h : Alike fault fault') : fault.contract? = fault'.contract? := by
  cases h with
  | same => rfl
  | reordered key hperm =>
    rw [contract?, contract?, Similarity.closeNames_eq_of_perm key hperm,
      sortTexts_eq_of_perm hperm]

/-- **A report on an unknown engine does not depend on the order of what is known**: it makes the same
suggestions in the same order, says the same, and tells the same in fields. -/
theorem unknownEngine_blind_to_order (key : String) (h : known.Perm known') :
    Similarity.closeNames key known = Similarity.closeNames key known' ∧
      (engineUnknown key known).message = (engineUnknown key known').message ∧
      (engineUnknown key known).contract? = (engineUnknown key known').contract? :=
  have halike : Alike (engineUnknown key known) (engineUnknown key known') := .reordered key h
  ⟨Similarity.closeNames_eq_of_perm key h, message_eq_of_alike halike,
    contract?_eq_of_alike halike⟩

/-- More names than a report lists, some of them twice, and all equally close to `mark`. -/
def markNames : List String :=
  ["mark3", "mark1", "mark7", "mark1", "mark9", "mark2", "mark8", "mark5", "mark9", "mark4",
    "mark6", "mark0"]

/-- The report is the same from whichever end the names are gone through. -/
theorem marks_suggested_alike :
    markNames.Perm markNames.reverse ∧
      (∀ name ∈ markNames, Similarity.scored? "mark" name = some (8 / 9, name)) ∧
      Similarity.closeNames "mark" markNames = Similarity.closeNames "mark" markNames.reverse ∧
      (engineUnknown "mark" markNames).message = (engineUnknown "mark" markNames.reverse).message ∧
      (engineUnknown "mark" markNames).contract? =
        (engineUnknown "mark" markNames.reverse).contract? := by
  have hperm : markNames.Perm markNames.reverse := (List.reverse_perm markNames).symm
  exact ⟨hperm, by decide +kernel, unknownEngine_blind_to_order "mark" hperm⟩

end Fault

end AssetPipeline
