/-
AssetPipeline/Proofs/Text/NormalForm.lean

Lower case, and the spelling of extensions, as normal forms.

A character is settled if it is no capital: its lower case is itself, in whatever
surroundings.  Which small letter a capital goes to may depend on its surroundings, and
there may be two characters in its place, but all of them are settled.  That no small
letter is a capital again is read off the runs of the table, two at a time
(`runs_apart`).

Main results: `lowerFrom_of_settled` leaves settled text as it is, so that lower case is
idempotent (`lowerCase_lowerCase`), and so is the spelling of an extension
(`normalize_normalize`).
-/
import AssetPipeline.Extension

namespace AssetPipeline

namespace Text

/-! ### Runs of capitals -/

namespace CaseRun

theorem covers_iff {r : CaseRun} {n : Nat} :
    r.covers n = true ↔ (r.first ≤ n ∧ n ≤ r.last) ∧ (n - r.first) % r.step = 0 := by
  simp [covers]

/-- The number of the small letter of a capital of the run. -/
def smallCode (r : CaseRun) (n : Nat) : Nat := ((n : Int) + r.shift).toNat

/-- Whether it is plain that no small letter of `r` is a capital of `r'`: the small letters lie
before the capitals or behind them, or both go by two and miss each other. -/
def apart (r r' : CaseRun) : Bool :=
  (r.smallCode r.last).blt r'.first || r'.last.blt (r.smallCode r.first) ||
    (decide (0 ≤ r.first + r.shift) && (r.step == 2 || r.first == r.last) && r'.step == 2 &&
      (r.smallCode r.first + r'.first) % 2 == 1)

theorem not_covers_of_apart {r r' : CaseRun} {n : Nat} (h : r.apart r' = true)
    (hn : r.covers n = true) : r'.covers (r.smallCode n) = false := by
  rw [Bool.eq_false_iff]
  intro hcovers
  simp only [apart, Bool.and_eq_true, Bool.or_eq_true, Nat.blt_eq, beq_iff_eq,
    decide_eq_true_eq] at h
  rw [covers_iff] at hn hcovers
  unfold smallCode at h hcovers
  obtain (hbefore | hbehind) | ⟨⟨⟨hpos, hstep | hone⟩, hstep'⟩, hodd⟩ := h
  · omega
  · omega
  · rw [hstep] at hn
    rw [hstep'] at hcovers
    omega
  · rw [hstep'] at hcovers
    omega

end CaseRun

/-- The dotted capital I as a run of its own: two characters take its place, so it is in no other
run. -/
def dottedRun : CaseRun := ⟨0x130, 0x130, 1, 0⟩

/-- No small letter of a run is a capital of any run. -/
theorem runs_apart :
    (caseRuns.all fun r => (dottedRun :: caseRuns).all fun r' => r.apart r') = true := by
  decide +kernel

/-! ### Settled characters -/

/-- Whether the character is no capital. -/
def isSettled (c : Char) : Bool := (dottedRun :: caseRuns).all fun r => !r.covers c.toNat

theorem not_covers_of_settled {c : Char} {r : CaseRun} (h : isSettled c = true)
    (hr : r ∈ dottedRun :: caseRuns) : r.covers c.toNat = false := by
  have hc := List.all_eq_true.1 h r hr
  simpa using hc

/-- A settled character is its own lower case. -/
theorem lowerAt_of_settled {c : Char} (h : isSettled c = true) (before : Bool) (rest : List Char) :
    lowerAt before c rest = [c] := by
  have hsigma : c ≠ capitalSigma := by
    rintro rfl
    exact absurd h (by decide +kernel)
  have hdotted : c ≠ dottedCapitalI := by
    rintro rfl
    exact absurd h (by decide +kernel)
  have hnone : caseRuns.find? (·.covers c.toNat) = none := by
    rw [List.find?_eq_none]
    intro r hr
    simp [not_covers_of_settled h (List.mem_cons_of_mem dottedRun hr)]
  simp [lowerAt, hsigma, hdotted, smallLetter, hnone]

/-- The small letter of a capital is settled. -/
theorem isSettled_small {r : CaseRun} {n : Nat} (hr : r ∈ caseRuns) (hn : r.covers n = true) :
    isSettled (r.small n) = true := by
  have hapart := List.all_eq_true.1 runs_apart r hr
  show isSettled (Char.ofNat (r.smallCode n)) = true
  by_cases hvalid : (r.smallCode n).isValidChar
  · have hcode : (Char.ofNat (r.smallCode n)).toNat = r.smallCode n := by
      rw [Char.ofNat, dif_pos hvalid]
      rfl
    rw [isSettled, hcode, List.all_eq_true]
    intro r' hr'
    simp [CaseRun.not_covers_of_apart (List.all_eq_true.1 hapart r' hr') hn]
  · -- a number that is no character stands for the character with the number zero
    rw [Char.ofNat, dif_neg hvalid]
    decide +kernel

theorem isSettled_smallLetter {c : Char} (h : c ≠ dottedCapitalI) :
    isSettled (smallLetter c) = true := by
  unfold smallLetter
  split
  · next r hfind =>
    have hcovers : r.covers c.toNat = true := by simpa using List.find?_some hfind
    exact isSettled_small (List.mem_of_find?_eq_some hfind) hcovers
  · next hnone =>
    rw [List.find?_eq_none] at hnone
    have hdotted : dottedRun.covers c.toNat = false := by
      rw [Bool.eq_false_iff]
      intro hcovers
      obtain ⟨⟨hfirst, hlast⟩, -⟩ := CaseRun.covers_iff.1 hcovers
      exact h (Char.toNat_inj.1 (Nat.le_antisymm hlast hfirst))
    rw [isSettled, List.all_cons, hdotted, Bool.not_false, Bool.true_and, List.all_eq_true]
    intro r hr
    simpa using hnone r hr

theorem isSettled_of_mem_lowerAt {before : Bool} {c d : Char} {rest : List Char}
    (h : d ∈ lowerAt before c rest) : isSettled d = true := by
  unfold lowerAt at h
  split at h
  · split at h
    · rw [List.mem_singleton.1 h]
      decide +kernel
    · rw [List.mem_singleton.1 h]
      decide +kernel
  · split at h
    · simp only [List.mem_cons, List.not_mem_nil, or_false] at h
      rcases h with rfl | rfl
      · decide +kernel
      · decide +kernel
    · next hdotted =>
      rw [List.mem_singleton.1 h]
      exact isSettled_smallLetter hdotted

/-! ### Texts -/

theorem isSettled_of_mem_lowerFrom {before : Bool} {s : List Char} {d : Char}
    (h : d ∈ lowerFrom before s) : isSettled d = true := by
  induction s generalizing before with
  | nil => cases h
  | cons c rest ih =>
    rcases List.mem_append.1 h with h | h
    · exact isSettled_of_mem_lowerAt h
    · exact ih h

/-- **Settled text is in lower case**, after a cased letter or not. -/
theorem lowerFrom_of_settled {s : List Char} (h : ∀ c ∈ s, isSettled c = true) (before : Bool) :
    lowerFrom before s = s := by
  induction s generalizing before with
  | nil => rfl
  | cons c rest ih =>
    have hrest : ∀ d ∈ rest, isSettled d = true := fun d hd => h d (List.mem_cons_of_mem c hd)
    rw [lowerFrom, lowerAt_of_settled (h c List.mem_cons_self), ih hrest, List.singleton_append]

/-- Lower case is idempotent. -/
theorem lowerCase_lowerCase (s : String) : lowerCase (lowerCase s) = lowerCase s := by
  rw [lowerCase, lowerCase, String.toList_ofList]
  rw [lowerFrom_of_settled fun _ hc => isSettled_of_mem_lowerFrom hc]

end Text

namespace Extension

open Text

/-- **The spelling of an extension is a normal form.** -/
theorem normalize_normalize (ext : String) : normalize (normalize ext) = normalize ext := by
  have hsettled : ∀ c ∈ dotted (lowerFrom false ext.toList), isSettled c = true := by
    intro c hc
    unfold dotted at hc
    split at hc
    · exact isSettled_of_mem_lowerFrom hc
    · rcases List.mem_cons.1 hc with rfl | hc
      · decide +kernel
      · exact isSettled_of_mem_lowerFrom hc
  rw [normalize, normalize, String.toList_ofList, lowerFrom_of_settled hsettled, dotted_dotted]

theorem head?_normalize (ext : String) : (normalize ext).toList.head? = some '.' := by
  rw [normalize, String.toList_ofList, head?_dotted]

end Extension

end AssetPipeline
