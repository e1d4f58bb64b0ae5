/-
AssetPipeline/Proofs/Text/Letters.lean

Lower case letter by letter.

The characters before the letter A are signs.  A sign is its own lower case, and no other
character is lowered to one: the small letters of every run of the table lie behind the letter A
(`runs_lettered`).  So a text in lower case has the signs that it had (`mem_lowerFrom_sign`), and
it does not matter whether a dot is put in front of it before or afterwards (`lowerFrom_dot`).

Only a capital sigma looks at its surroundings, and only at the end of a word does it go to another
letter than it does alone.  Any other text is lowered one letter at a time, so it may have any
letters in place of its own that go to the same ones (`SameLetters.lowerFrom_eq`).
-/
import AssetPipeline.Proofs.Text.NormalForm

namespace AssetPipeline.Text

variable {c d : Char} {s t rest : List Char} {before : Bool}

/-! ### Signs -/

/-- Whether the character stands before all letters. -/
def isSign (c : Char) : Bool := decide (c.toNat < 0x41)

/-- Whether the capitals of the run, and their small letters, are characters behind all signs. -/
def CaseRun.lettered (r : CaseRun) : Bool :=
  decide (0x41 ≤ r.first) && decide (0x41 ≤ r.smallCode r.first) &&
    (decide (r.smallCode r.last < 0xd800) ||
      decide (0xdfff < r.smallCode r.first) && decide (r.smallCode r.last < 0x110000))

theorem runs_lettered : (caseRuns.all CaseRun.lettered) = true := by
  decide +kernel

/-- No small letter is a sign. -/
theorem isSign_small {r : CaseRun} {n : Nat} (hr : r.lettered = true) (hn : r.covers n = true) :
    isSign (r.small n) = false := by
  obtain ⟨⟨hfirst, hlast⟩, -⟩ := CaseRun.covers_iff.1 hn
  simp only [CaseRun.lettered, Bool.and_eq_true, Bool.or_eq_true, decide_eq_true_eq] at hr
  obtain ⟨⟨-, hsmall⟩, hrange⟩ := hr
  -- the small letters of a run are in the order of its capitals
  have hlow : r.smallCode r.first ≤ r.smallCode n := by
    unfold CaseRun.smallCode
    omega
  have hhigh : r.smallCode n ≤ r.smallCode r.last := by
    unfold CaseRun.smallCode
    omega
  have hvalid : (r.smallCode n).isValidChar := by
    rcases hrange with hbelow | ⟨habove, hbound⟩
    · exact Or.inl (by omega)
    · exact Or.inr ⟨by omega, by omega⟩
  have hcode : (r.small n).toNat = r.smallCode n := by
    show (Char.ofNat (r.smallCode n)).toNat = r.smallCode n
    rw [Char.ofNat, dif_pos hvalid]
    rfl
  rw [isSign, hcode, decide_eq_false_iff_not]
  omega

theorem isSettled_of_sign (h : isSign c = true) : isSettled c = true := by
  have hsign : c.toNat < 0x41 := of_decide_eq_true h
  rw [isSettled, List.all_eq_true]
  intro r hr
  have hfirst : 0x41 ≤ r.first := by
    rcases List.mem_cons.1 hr with rfl | hr
    · decide
    · have hlettered := List.all_eq_true.1 runs_lettered r hr
      simp only [CaseRun.lettered, Bool.and_eq_true, decide_eq_true_eq] at hlettered
      exact hlettered.1.1
  have hnot : r.covers c.toNat = false := by
    rw [Bool.eq_false_iff]
    intro hcovers
    have hge := (CaseRun.covers_iff.1 hcovers).1.1
    omega
  rw [hnot]
  rfl

/-- A sign comes from itself only. -/
theorem smallLetter_eq_sign (hd : isSign d = true) (h : smallLetter c = d) : d = c := by
  unfold smallLetter at h
  split at h
  · next r hfind =>
    have hlettered := List.all_eq_true.1 runs_lettered r (List.mem_of_find?_eq_some hfind)
    have hcovers : r.covers c.toNat = true := by simpa using List.find?_some hfind
    rw [← h, isSign_small hlettered hcovers] at hd
    cases hd
  · exact h.symm

theorem mem_lowerAt_sign (hd : isSign d = true) : d ∈ lowerAt before c rest ↔ d = c := by
  constructor
  · intro h
    unfold lowerAt at h
    split at h
    · split at h
      · rw [List.mem_singleton.1 h] at hd
        exact absurd hd (by decide)
      · rw [List.mem_singleton.1 h] at hd
        exact absurd hd (by decide)
    · split at h
      · simp only [List.mem_cons, List.not_mem_nil, or_false] at h
        rcases h with rfl | rfl
        · exact absurd hd (by decide)
        · exact absurd hd (by decide)
      · exact smallLetter_eq_sign hd (List.mem_singleton.1 h).symm
  · rintro rfl
    rw [lowerAt_of_settled (isSettled_of_sign hd)]
    exact List.mem_singleton.2 rfl

/-- **A text in lower case has the signs that it had.** -/
theorem mem_lowerFrom_sign (hd : isSign d = true) : d ∈ lowerFrom before s ↔ d ∈ s := by
  induction s generalizing before with
  | nil => rfl
  | cons c rest ih => rw [lowerFrom, List.mem_append, mem_lowerAt_sign hd, ih, List.mem_cons]

/-- A dot is looked over, so what follows it is lowered as it would be without it. -/
theorem lowerFrom_dot : lowerFrom before ('.' :: s) = '.' :: lowerFrom before s := by
  have hover : isCaseIgnorable '.' = true := by decide +kernel
  rw [lowerFrom, lowerAt_of_settled (isSettled_of_sign rfl), casedBehind, if_pos hover]
  rfl

theorem lowerAt_ne_nil : lowerAt before c rest ≠ [] := by
  unfold lowerAt
  split
  · split <;> simp
  · split <;> simp

theorem lowerFrom_eq_nil_iff : lowerFrom before s = [] ↔ s = [] := by
  cases s with
  | nil => exact Iff.rfl
  | cons c rest => simp [lowerFrom, lowerAt_ne_nil]

/-- A text in lower case begins with a sign if it did so before. -/
theorem head?_lowerFrom_sign (hd : isSign d = true) (h : (lowerFrom before s).head? = some d) :
    s.head? = some d := by
  cases s with
  | nil => cases h
  | cons c rest =>
    obtain ⟨first, others, hlower⟩ :=
      List.exists_cons_of_ne_nil (@lowerAt_ne_nil c rest before)
    rw [lowerFrom, hlower, List.cons_append, List.head?_cons] at h
    have hmem : d ∈ lowerAt before c rest := by
      rw [hlower, Option.some.inj h]
      exact List.mem_cons_self
    rw [(mem_lowerAt_sign hd).1 hmem]
    rfl

/-! ### Letters one by one -/

/-- The lower case of a letter that stands alone. -/
def lowerLetter (c : Char) : List Char := lowerAt false c []

/-- Whether no capital sigma of a stretch of text ends a word. -/
def noFinalSigma (before : Bool) : List Char → Bool
  | [] => true
  | c :: rest =>
    !(decide (c = capitalSigma) && before && !casedAhead rest) &&
      noFinalSigma (casedBehind before c) rest

/-- Letters that end no word as a sigma does are lowered one at a time. -/
theorem lowerFrom_eq_flatMap (h : noFinalSigma before s = true) :
    lowerFrom before s = s.flatMap lowerLetter := by
  induction s generalizing before with
  | nil => rfl
  | cons c rest ih =>
    simp only [noFinalSigma, Bool.and_eq_true, Bool.not_eq_true'] at h
    obtain ⟨hsigma, hrest⟩ := h
    have hletter : lowerAt before c rest = lowerLetter c := by
      rw [lowerLetter, lowerAt, lowerAt]
      split
      · next hc =>
        rw [decide_eq_true hc, Bool.true_and] at hsigma
        rw [hsigma]
        rfl
      · rfl
    rw [lowerFrom, hletter, ih hrest, List.flatMap_cons]

/-- The letters of two texts have the same lower case one by one, and in neither does a capital
sigma end a word. -/
structure SameLetters (s t : List Char) : Prop where
  letters : s.map lowerLetter = t.map lowerLetter
  left : noFinalSigma false s = true
  right : noFinalSigma false t = true

/-- **Texts with the same letters have the same lower case.** -/
theorem SameLetters.lowerFrom_eq (h : SameLetters s t) : lowerFrom false s = lowerFrom false t := by
  rw [lowerFrom_eq_flatMap h.left, lowerFrom_eq_flatMap h.right, List.flatMap_def,
    List.flatMap_def, h.letters]

/-- A text has the same lower case as its lower case. -/
theorem lowerFrom_lowerFrom : lowerFrom false (lowerFrom before s) = lowerFrom before s :=
  lowerFrom_of_settled (fun _ hc => isSettled_of_mem_lowerFrom hc) false

end AssetPipeline.Text
