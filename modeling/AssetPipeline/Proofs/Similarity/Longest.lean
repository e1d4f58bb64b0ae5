/-
AssetPipeline/Proofs/Similarity/Longest.lean

The longest block that two texts share.

The search goes through all pairs of positions, row by row, and keeps the best block so far
(`scan_induction`).  Each pair has a lead, the number of characters that the texts share from there
on, as far as these count.  What is found is the longest lead of all, and of several that are as
long the first one: earliest in the first text, and then in the second (`FirstLongest`).

Afterwards the block is widened through equal characters of any kind, so that it stays a part of
both texts (`Block.Shared`), also when some characters do not count.

Main statements: `firstLongest_longestFrom` for the search, `longestBlock_shared` for what comes out
of it, and `longestBlock_self`.  A text shares with itself all of it: leads do not tell the two sides
apart, so the first of the longest starts at the same position on both, and from there nothing stops
the widening.
-/
import AssetPipeline.Similarity

namespace AssetPipeline.Similarity

variable {counts : Char → Bool} {a b : List Char} {m : Block}

/-! ### Leads -/

theorem commonLead_nil (counts : Char → Bool) (a : List Char) : commonLead counts a [] = 0 := by
  cases a <;> rfl

/-- Leading characters that two texts share are the same in both. -/
theorem getElem?_of_lt_commonLead {k : Nat} (h : k < commonLead counts a b) : a[k]? = b[k]? := by
  induction a generalizing b k with
  | nil => simp [commonLead] at h
  | cons x a ih =>
    cases b with
    | nil => simp [commonLead] at h
    | cons y b =>
      rw [commonLead] at h
      split at h
      · next hxy =>
        cases k with
        | zero => simp [hxy.1]
        | succ k => simpa using ih (Nat.lt_of_succ_lt_succ h)
      · cases h

/-- The same holds of the characters before two positions, counted from there. -/
theorem getElem?_of_lt_commonLead_reverse {i j k : Nat} (hi : i ≤ a.length) (hj : j ≤ b.length)
    (h : k < commonLead counts (a.take i).reverse (b.take j).reverse) :
    a[i - 1 - k]? = b[j - 1 - k]? := by
  have hle := commonLead_le counts (a.take i).reverse (b.take j).reverse
  simp only [List.length_reverse, List.length_take] at hle
  have hsame := getElem?_of_lt_commonLead h
  rwa [List.getElem?_reverse (by rw [List.length_take]; omega),
    List.getElem?_reverse (by rw [List.length_take]; omega), List.length_take, List.length_take,
    Nat.min_eq_left hi, Nat.min_eq_left hj, List.getElem?_take_of_lt (by omega),
    List.getElem?_take_of_lt (by omega)] at hsame

/-- It does not matter which text is the first one. -/
theorem commonLead_comm (counts : Char → Bool) (a b : List Char) :
    commonLead counts a b = commonLead counts b a := by
  induction a generalizing b with
  | nil => rw [commonLead_nil]; rfl
  | cons x a ih =>
    cases b with
    | nil => rfl
    | cons y b =>
      rw [commonLead, commonLead, ih]
      by_cases hxy : x = y
      · simp [hxy]
      · simp [hxy, Ne.symm hxy]

/-- A text shares with no other one more than with itself. -/
theorem commonLead_le_self (counts : Char → Bool) (a b : List Char) :
    commonLead counts a b ≤ commonLead counts a a := by
  induction a generalizing b with
  | nil => exact Nat.le_refl 0
  | cons x a ih =>
    cases b with
    | nil => exact Nat.zero_le _
    | cons y b =>
      rw [commonLead, commonLead]
      by_cases hx : counts x = true
      · have := ih b
        split <;> simp [hx]
        omega
      · simp [hx]

/-- If all characters count, a text shares all of it with itself. -/
theorem commonLead_self (a : List Char) : commonLead (fun _ => true) a a = a.length := by
  induction a with
  | nil => rfl
  | cons x a ih => simp [commonLead, ih]

/-! ### The search -/

/-- The lead of a pair of positions. -/
def lead (counts : Char → Bool) (a b : List Char) (i j : Nat) : Nat :=
  commonLead counts (a.drop i) (b.drop j)

/-- Nothing leads from behind the end of the first text. -/
theorem lead_of_length_le {i : Nat} (h : a.length ≤ i) (j : Nat) : lead counts a b i j = 0 := by
  rw [lead, List.drop_of_length_le h]
  rfl

/-- Nothing leads from behind the end of the second text. -/
theorem lead_of_length_le' {j : Nat} (h : b.length ≤ j) (i : Nat) : lead counts a b i j = 0 := by
  rw [lead, List.drop_of_length_le h, commonLead_nil]

/-- A row whose first character does not count makes no difference. -/
theorem longestAt_of_uncounted {x : Char} (h : counts x = false) (i j : Nat) (b : List Char)
    (best : Block) : longestAt counts (x :: a) i j b best = best := by
  induction b generalizing j with
  | nil => rfl
  | cons y b ih => simp [longestAt, commonLead, h, Block.orLonger, ih]

theorem longestFrom_cons (counts : Char → Bool) (x : Char) (a b : List Char) (i : Nat)
    (best : Block) :
    longestFrom counts b i (x :: a) best =
      longestFrom counts b (i + 1) a (longestAt counts (x :: a) i 0 b best) := by
  rw [longestFrom]
  split
  · rfl
  · next hx => rw [longestAt_of_uncounted (by simpa using hx)]

/-- Where nothing is left of a text, its end is reached. -/
theorem eq_length_of_nil_eq_drop {i : Nat} (h : [] = a.drop i) (hi : i ≤ a.length) :
    i = a.length :=
  Nat.le_antisymm hi (List.drop_eq_nil_iff.1 h.symm)

/-- Where a character is left, the rest begins behind it. -/
theorem of_cons_eq_drop {x : Char} {rest : List Char} {i : Nat} (h : x :: rest = a.drop i) :
    i < a.length ∧ rest = a.drop (i + 1) := by
  constructor
  · rcases Nat.lt_or_ge i a.length with hlt | hge
    · exact hlt
    · rw [List.drop_of_length_le hge] at h
      cases h
  · rw [← List.tail_drop, ← h, List.tail_cons]

section
variable {P : Nat → Nat → Block → Prop}

/-- One row of the search. -/
theorem longestAt_induction {i : Nat}
    (step : ∀ j best, j < b.length → P i j best →
      P i (j + 1) (best.orLonger ⟨i, j, lead counts a b i j⟩))
    {rest : List Char} {j : Nat} (hrest : rest = b.drop j) (hj : j ≤ b.length) {best : Block}
    (h : P i j best) : P i b.length (longestAt counts (a.drop i) i j rest best) := by
  induction rest generalizing j best with
  | nil =>
    obtain rfl := eq_length_of_nil_eq_drop hrest hj
    exact h
  | cons y rest ih =>
    obtain ⟨hlt, hnext⟩ := of_cons_eq_drop hrest
    have hstep := step j best hlt h
    rw [lead, ← hrest] at hstep
    exact ih hnext hlt hstep

/-- **The search goes through all pairs of positions, row by row.** -/
theorem scan_induction (start : P 0 0 ⟨0, 0, 0⟩)
    (step : ∀ i j best, i < a.length → j < b.length → P i j best →
      P i (j + 1) (best.orLonger ⟨i, j, lead counts a b i j⟩))
    (next : ∀ i best, P i b.length best → P (i + 1) 0 best) :
    P a.length 0 (longestFrom counts b 0 a ⟨0, 0, 0⟩) := by
  -- the recursion goes along what is left of the first text, so the positions come with it
  have hrows : ∀ rest i best, rest = a.drop i → i ≤ a.length → P i 0 best →
      P a.length 0 (longestFrom counts b i rest best) := by
    intro rest
    induction rest with
    | nil =>
      intro i best hrest hi h
      obtain rfl := eq_length_of_nil_eq_drop hrest hi
      exact h
    | cons x rest ih =>
      intro i best hrest hi h
      obtain ⟨hlt, hnext⟩ := of_cons_eq_drop hrest
      rw [longestFrom_cons, hrest]
      refine ih (i + 1) _ hnext hlt (next i _ ?_)
      exact longestAt_induction (fun j best hj => step i j best hlt hj) rfl (Nat.zero_le _) h
  exact hrows a 0 ⟨0, 0, 0⟩ rfl (Nat.zero_le _) start

end

/-! ### The first of the longest -/

/-- The pair of positions comes first in the search. -/
def Precedes (i j i' j' : Nat) : Prop := i < i' ∨ i = i' ∧ j < j'

/-- What comes before the next pair of a row comes before this one, or is this one. -/
theorem Precedes.of_next {i j i' j' : Nat} (h : Precedes i' j' i (j + 1)) :
    Precedes i' j' i j ∨ i' = i ∧ j' = j := by
  simp only [Precedes] at h ⊢
  omega

/-- The block is the longest lead, and no pair that comes before it leads as far. -/
structure FirstLongest (counts : Char → Bool) (a b : List Char) (m : Block) : Prop where
  size_eq : lead counts a b m.left m.right = m.size
  longest : ∀ i j, lead counts a b i j ≤ m.size
  first : ∀ i j, Precedes i j m.left m.right → lead counts a b i j < m.size

/-- The block is the first of the longest leads among the pairs before `(i, j)`. -/
structure LongestBefore (counts : Char → Bool) (a b : List Char) (i j : Nat) (m : Block) :
    Prop where
  size_le : m.size ≤ lead counts a b m.left m.right
  reached : ¬ Precedes i j m.left m.right
  longest : ∀ i' j', Precedes i' j' i j → lead counts a b i' j' ≤ m.size
  first : ∀ i' j', Precedes i' j' m.left m.right → lead counts a b i' j' < m.size

theorem longestBefore_start : LongestBefore counts a b 0 0 ⟨0, 0, 0⟩ where
  size_le := Nat.zero_le _
  reached h := by simp [Precedes] at h
  longest i j h := by simp [Precedes] at h
  first i j h := by simp [Precedes] at h

theorem LongestBefore.step {i j : Nat} (h : LongestBefore counts a b i j m) :
    LongestBefore counts a b i (j + 1) (m.orLonger ⟨i, j, lead counts a b i j⟩) := by
  have hreached := h.reached
  unfold Block.orLonger
  split
  · next hlonger =>
    -- the pair leads further than everything before it, so it is the first that leads so far
    refine ⟨Nat.le_refl _, ?_, ?_, ?_⟩
    · simp only [Precedes]
      omega
    · intro i' j' hbefore
      show lead counts a b i' j' ≤ lead counts a b i j
      rcases hbefore.of_next with hseen | ⟨rfl, rfl⟩
      · exact Nat.le_of_lt (Nat.lt_of_le_of_lt (h.longest i' j' hseen) hlonger)
      · exact Nat.le_refl _
    · exact fun i' j' hseen => Nat.lt_of_le_of_lt (h.longest i' j' hseen) hlonger
  · next hnot =>
    refine ⟨h.size_le, ?_, ?_, h.first⟩
    · simp only [Precedes] at hreached ⊢
      omega
    · intro i' j' hbefore
      rcases hbefore.of_next with hseen | ⟨rfl, rfl⟩
      · exact h.longest i' j' hseen
      · exact Nat.not_lt.1 hnot

/-- At the end of a row the search goes on with the next one. -/
theorem LongestBefore.next {i : Nat} (h : LongestBefore counts a b i b.length m) :
    LongestBefore counts a b (i + 1) 0 m := by
  have hreached := h.reached
  refine ⟨h.size_le, ?_, ?_, h.first⟩
  · simp only [Precedes] at hreached ⊢
    omega
  · intro i' j' hbefore
    rcases Nat.lt_or_ge j' b.length with hlt | hge
    · refine h.longest i' j' ?_
      simp only [Precedes] at hbefore ⊢
      omega
    · rw [lead_of_length_le' hge]
      exact Nat.zero_le _

/-- **The search finds the first of the longest leads.** -/
theorem firstLongest_longestFrom (counts : Char → Bool) (a b : List Char) :
    FirstLongest counts a b (longestFrom counts b 0 a ⟨0, 0, 0⟩) := by
  have h : LongestBefore counts a b a.length 0 (longestFrom counts b 0 a ⟨0, 0, 0⟩) :=
    scan_induction (P := LongestBefore counts a b) longestBefore_start
      (fun _ _ _ _ _ hbest => hbest.step) (fun _ _ hbest => hbest.next)
  have hlongest : ∀ i j, lead counts a b i j ≤ (longestFrom counts b 0 a ⟨0, 0, 0⟩).size := by
    intro i j
    rcases Nat.lt_or_ge i a.length with hlt | hge
    · exact h.longest i j (Or.inl hlt)
    · rw [lead_of_length_le hge]
      exact Nat.zero_le _
  exact ⟨Nat.le_antisymm (hlongest _ _) h.size_le, hlongest, h.first⟩

/-! ### Blocks are parts of both texts -/

namespace Block

/-- The block lies inside both texts, which are the same there. -/
structure Shared (a b : List Char) (m : Block) : Prop where
  fits : m.Fits a.length b.length
  same : ∀ k < m.size, a[m.left + k]? = b[m.right + k]?

/-- Equal characters on both sides belong to both texts as well. -/
theorem Shared.widen (h : m.Shared a b) : (m.widen a b).Shared a b := by
  refine ⟨widen_fits h.fits, ?_⟩
  obtain ⟨hleft, hright⟩ := h.fits
  have hback := commonLead_le (fun _ => true) (a.take m.left).reverse (b.take m.right).reverse
  simp only [List.length_reverse, List.length_take] at hback
  intro k hk
  simp only [Block.widen] at hk ⊢
  have hbefore := fun k => @getElem?_of_lt_commonLead_reverse (fun _ => true) a b m.left m.right k
    (by omega) (by omega)
  have hbehind := fun k => @getElem?_of_lt_commonLead (fun _ => true) (a.drop (m.left + m.size))
    (b.drop (m.right + m.size)) k
  generalize commonLead (fun _ => true) (a.take m.left).reverse
    (b.take m.right).reverse = back at *
  rcases Nat.lt_or_ge k back with hlt | hge
  · -- a character before the block, counted from there
    have hsame := hbefore (back - 1 - k) (by omega)
    have hi : m.left - back + k = m.left - 1 - (back - 1 - k) := by omega
    have hj : m.right - back + k = m.right - 1 - (back - 1 - k) := by omega
    rw [hi, hj, hsame]
  · have hi : m.left - back + k = m.left + (k - back) := by omega
    have hj : m.right - back + k = m.right + (k - back) := by omega
    rw [hi, hj]
    rcases Nat.lt_or_ge (k - back) m.size with hinside | hover
    · exact h.same (k - back) hinside
    · have hsame := hbehind (k - back - m.size) (by omega)
      rw [List.getElem?_drop, List.getElem?_drop] at hsame
      have hi' : m.left + (k - back) = m.left + m.size + (k - back - m.size) := by omega
      have hj' : m.right + (k - back) = m.right + m.size + (k - back - m.size) := by omega
      rw [hi', hj', hsame]

end Block

/-- What two texts lead with from two positions is a part of both. -/
theorem lead_shared {i j : Nat} (hi : i < a.length) (hj : j < b.length) :
    Block.Shared a b ⟨i, j, lead counts a b i j⟩ := by
  have hle := commonLead_le counts (a.drop i) (b.drop j)
  simp only [List.length_drop] at hle
  refine ⟨⟨?_, ?_⟩, ?_⟩
  · show i + commonLead counts (a.drop i) (b.drop j) ≤ a.length
    omega
  · show j + commonLead counts (a.drop i) (b.drop j) ≤ b.length
    omega
  · intro k hk
    have hsame := getElem?_of_lt_commonLead hk
    rwa [List.getElem?_drop, List.getElem?_drop] at hsame

theorem longestFrom_shared (counts : Char → Bool) (a b : List Char) :
    (longestFrom counts b 0 a ⟨0, 0, 0⟩).Shared a b := by
  refine scan_induction (P := fun _ _ m => Block.Shared a b m) ?_ ?_ fun _ _ h => h
  · exact ⟨⟨Nat.zero_le _, Nat.zero_le _⟩, nofun⟩
  · intro i j best hi hj h
    unfold Block.orLonger
    split
    · exact lead_shared hi hj
    · exact h

/-- **The longest block is a part of both texts.** -/
theorem longestBlock_shared (counts : Char → Bool) (a b : List Char) :
    (longestBlock counts a b).Shared a b :=
  (longestFrom_shared counts a b).widen

/-! ### A text and itself -/

theorem lead_comm (counts : Char → Bool) (a : List Char) (i j : Nat) :
    lead counts a a i j = lead counts a a j i := commonLead_comm ..

/-- The first of the longest leads of a text in itself has the same position on both sides. -/
theorem FirstLongest.left_eq_right (h : FirstLongest counts a a m) : m.left = m.right := by
  rcases Nat.lt_trichotomy m.left m.right with hlt | heq | hlt
  · -- the text would share as much with itself from the left position on
    have hself : m.size ≤ lead counts a a m.left m.left := by
      rw [← h.size_eq]
      exact commonLead_le_self ..
    exact absurd hself (Nat.not_le.2 (h.first _ _ (Or.inr ⟨rfl, hlt⟩)))
  · exact heq
  · -- the same two positions would have been found the other way round
    have hother : lead counts a a m.right m.left = m.size := by rw [lead_comm, h.size_eq]
    exact absurd hother (Nat.ne_of_lt (h.first _ _ (Or.inl hlt)))

/-- **A text shares all of it with itself**, whichever characters count. -/
theorem longestBlock_self (counts : Char → Bool) (a : List Char) :
    longestBlock counts a a = ⟨0, 0, a.length⟩ := by
  have heq := (firstLongest_longestFrom counts a a).left_eq_right
  have hfits := (longestFrom_shared counts a a).fits.1
  rw [longestBlock]
  generalize longestFrom counts a 0 a ⟨0, 0, 0⟩ = m at heq hfits
  obtain ⟨left, right, size⟩ := m
  simp only at heq hfits
  subst heq
  simp only [Block.widen, commonLead_self, List.length_reverse, List.length_take, List.length_drop,
    Block.mk.injEq]
  omega

end AssetPipeline.Similarity
