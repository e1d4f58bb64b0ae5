/-
AssetPipeline/Text/Split.lean

Cutting a text at its last separator.

Main statements: `splitLast?_eq_some_iff` says that a text is cut at the last
separator exactly when it is the two parts around that separator and the second
part has none, and `splitLast?_eq_none_iff` that there is no cut exactly when
there is no separator.
-/

namespace AssetPipeline.Text

variable {sep : Char}

/-- The parts before and after the last separator. -/
def splitLast? (sep : Char) : List Char → Option (List Char × List Char)
  | [] => none
  | c :: rest =>
    match splitLast? sep rest with
    | some (before, after) => some (c :: before, after)
    | none => if c = sep then some ([], rest) else none

theorem splitLast?_eq_none_iff {s : List Char} : splitLast? sep s = none ↔ sep ∉ s := by
  induction s with
  | nil => simp [splitLast?]
  | cons c rest ih =>
    rcases h : splitLast? sep rest with _ | ⟨before, after⟩
    · have hrest : sep ∉ rest := ih.1 h
      by_cases hc : c = sep
      · simp [splitLast?, h, hc]
      · have hc' : sep ≠ c := fun h => hc h.symm
        simp [splitLast?, h, hc, hc', hrest]
    · have hrest : sep ∈ rest := Decidable.byContradiction fun hn => by simp [ih.2 hn] at h
      simp [splitLast?, h, hrest]

theorem splitLast?_append {before after : List Char} (h : sep ∉ after) :
    splitLast? sep (before ++ sep :: after) = some (before, after) := by
  induction before with
  | nil => simp [splitLast?, splitLast?_eq_none_iff.2 h]
  | cons c rest ih => simp [splitLast?, ih]

theorem eq_of_splitLast?_eq_some {s before after : List Char}
    (h : splitLast? sep s = some (before, after)) : s = before ++ sep :: after ∧ sep ∉ after := by
  induction s generalizing before with
  | nil => simp [splitLast?] at h
  | cons c rest ih =>
    rw [splitLast?] at h
    rcases hr : splitLast? sep rest with _ | ⟨b, a⟩
    · rw [hr] at h
      by_cases hc : c = sep
      · simp only [hc, if_true, Option.some.injEq, Prod.mk.injEq] at h
        obtain ⟨rfl, rfl⟩ := h
        exact ⟨by simp [hc], splitLast?_eq_none_iff.1 hr⟩
      · simp [hc] at h
    · rw [hr] at h
      simp only [Option.some.injEq, Prod.mk.injEq] at h
      obtain ⟨rfl, rfl⟩ := h
      obtain ⟨hrest, ha⟩ := ih hr
      exact ⟨by simp [hrest], ha⟩

theorem splitLast?_eq_some_iff {s before after : List Char} :
    splitLast? sep s = some (before, after) ↔ s = before ++ sep :: after ∧ sep ∉ after := by
  constructor
  · exact eq_of_splitLast?_eq_some
  · rintro ⟨rfl, h⟩
    exact splitLast?_append h

/-- The part before the last separator is shorter. -/
theorem length_lt_of_splitLast? {s before after : List Char}
    (h : splitLast? sep s = some (before, after)) : before.length < s.length := by
  obtain ⟨rfl, -⟩ := splitLast?_eq_some_iff.1 h
  simp

end AssetPipeline.Text
