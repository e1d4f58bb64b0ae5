/-
AssetPipeline/Proofs/Fault/Suggestion.lean

The close names that a report on an unknown engine suggests.

A name is close to the key if its score reaches a bound.  The score takes long to find, so two cheap
bounds are tried first: the score that the lengths allow, and the one that the characters allow.  As
the blocks that two texts share hold no more than the characters of both, and these are no more than
the shorter text has, both bounds lie above the score (`score_le_countBound`,
`countBound_le_lengthBound`).  A name that they refuse is not close, and they make no difference
(`scored?_eq`).

No score is above one, and only the key itself comes to that (`score_eq_one_iff`).

Main statements: `suggestions_ranked` says which names are suggested, and in which order;
`known_key_first` that a key which is known is suggested before everything else.
-/
import AssetPipeline.Proofs.Fault.Order
import AssetPipeline.Proofs.Similarity.Blocks
import Mathlib.Algebra.Order.Field.Basic
import Mathlib.Algebra.Order.Field.Rat

namespace AssetPipeline

namespace Similarity

variable {key name : String} {known : List String}

/-! ### Shares -/

theorem share_mono {matched matched' : Nat} (h : matched ≤ matched') (total : Nat) :
    share matched total ≤ share matched' total := by
  unfold share
  split
  · exact le_rfl
  · have hcast : (2 * matched : Rat) ≤ 2 * matched' :=
      mul_le_mul_of_nonneg_left (Nat.cast_le.2 h) zero_le_two
    exact div_le_div_of_nonneg_right hcast (Nat.cast_nonneg total)

/-- Everything is shared if and only if half of the total is matched. -/
theorem share_eq_one_iff {matched total : Nat} (h : 2 * matched ≤ total) :
    share matched total = 1 ↔ 2 * matched = total := by
  unfold share
  split
  · next hzero => exact ⟨fun _ => by omega, fun _ => rfl⟩
  · next hne =>
    have hcast : (total : Rat) ≠ 0 := Nat.cast_ne_zero.2 hne
    rw [div_eq_one_iff_eq hcast]
    exact_mod_cast Iff.rfl

theorem share_le_one {matched total : Nat} (h : 2 * matched ≤ total) :
    share matched total ≤ 1 := by
  unfold share
  split
  · exact le_rfl
  · have hcast : (2 * matched : Rat) ≤ total := by exact_mod_cast h
    exact div_le_one_of_le₀ hcast (Nat.cast_nonneg total)

/-! ### Scores -/

/-- The blocks that a name shares with a key, where frequent characters of the key do not count. -/
def blocks (name key : String) : List Block :=
  sharedBlocks (isCounted (frequentIn key.toList)) name.toList key.toList

theorem score_eq_share (name key : String) :
    score name key = share (total (blocks name key)) (name.length + key.length) := by
  rw [blocks, total_sharedBlocks, ← String.length_toList, ← String.length_toList]
  rfl

theorem total_blocks_le (name key : String) :
    total (blocks name key) ≤ sharedCount name.toList key.toList := by
  rw [blocks, total_sharedBlocks]
  exact matchedLength_le_sharedCount ..

theorem two_mul_total_blocks_le (name key : String) :
    2 * total (blocks name key) ≤ name.length + key.length := by
  have h := (total_blocks_le name key).trans (sharedCount_le ..)
  rw [String.length_toList, String.length_toList] at h
  omega

/-- What the characters allow is above the score. -/
theorem score_le_countBound (name key : String) : score name key ≤ countBound name key := by
  rw [score_eq_share, countBound, String.length_toList, String.length_toList]
  exact share_mono (total_blocks_le name key) _

/-- What the lengths allow is above what the characters allow. -/
theorem countBound_le_lengthBound (name key : String) :
    countBound name key ≤ lengthBound name key :=
  share_mono (sharedCount_le ..) _

/-- **The cheap bounds make no difference**: whether a name is close depends on its score alone. -/
theorem scored?_eq (key name : String) :
    scored? key name =
      if closeScore ≤ score name key then some (score name key, name) else none := by
  unfold scored?
  by_cases hclose : closeScore ≤ score name key
  · have hcount := hclose.trans (score_le_countBound name key)
    have hlength := hcount.trans (countBound_le_lengthBound name key)
    rw [if_pos ⟨hlength, hcount⟩]
  · rw [if_neg hclose]
    split <;> rfl

theorem score_le_one (name key : String) : score name key ≤ 1 := by
  rw [score_eq_share]
  exact share_le_one (two_mul_total_blocks_le name key)

/-- **Only the key itself comes to the full score.** -/
theorem score_eq_one_iff : score name key = 1 ↔ name = key := by
  rw [score_eq_share, share_eq_one_iff (two_mul_total_blocks_le name key), blocks,
    total_sharedBlocks]
  constructor
  · intro hall
    have hle := (matchedLength_le_sharedCount (isCounted (frequentIn key.toList)) name.toList
      key.toList).trans (sharedCount_le ..)
    rw [← String.length_toList, ← String.length_toList] at hall
    -- the matched characters are half of all and no more than either text has, so all of both
    have hname : matchedLength (isCounted (frequentIn key.toList)) name.toList key.toList =
        name.toList.length := by omega
    have hkey : matchedLength (isCounted (frequentIn key.toList)) name.toList key.toList =
        key.toList.length := by omega
    exact String.toList_inj.1 (eq_of_matchedLength hname hkey)
  · rintro rfl
    rw [matchedLength_self, String.length_toList, Nat.two_mul]

/-! ### Close names -/

theorem closeScore_le_one : closeScore ≤ 1 := by decide +kernel

/-- The close ones among some names, with their scores. -/
def scoredNames (key : String) (known : List String) : List Scored :=
  (known.map fun name => (score name key, name)).filter fun x => closeScore ≤ x.1

theorem filterMap_scored? (key : String) (known : List String) :
    known.filterMap (scored? key) = scoredNames key known := by
  unfold scoredNames
  induction known with
  | nil => rfl
  | cons name rest ih =>
    rw [List.filterMap_cons, scored?_eq, List.map_cons, List.filter_cons, ih]
    by_cases hclose : closeScore ≤ score name key <;> simp [hclose]

/-- The close names are the first three of all names whose score is high enough, in the order of the
ranking. -/
theorem exists_ranked (key : String) (known : List String) :
    ∃ ranked : List Scored, ranked.Perm (scoredNames key known) ∧
      ranked.Pairwise (fun x y => ranksBefore x y = true) ∧
      closeNames key known = (ranked.take 3).map Prod.snd := by
  refine ⟨(scoredNames key known).mergeSort ranksBefore, List.mergeSort_perm .., ?_, ?_⟩
  · exact List.pairwise_mergeSort ranksBefore_trans ranksBefore_total _
  · rw [closeNames, filterMap_scored?]

end Similarity

namespace Fault

open Similarity

/-- **Suggestions are the best of the close names.**  All known names whose score is 3/5 or more are
ranked by score, and names with the same score by the order of texts, the greatest first; the first
three are suggested.  The score of a name is the share of the blocks that it has in common with the
key.  These are parts of both texts in the same order, which do not overlap, so that they hold no
more characters than both texts have, whatever their order, and no more than the shorter one is
long. -/
theorem suggestions_ranked (key : String) (known : List String) :
    (∃ ranked : List Scored,
      ranked.Perm ((known.map fun name => (score name key, name)).filter fun x => 3 / 5 ≤ x.1) ∧
      ranked.Pairwise (fun x y => y.1 < x.1 ∨ x.1 = y.1 ∧ y.2 ≤ x.2) ∧
      closeNames key known = (ranked.take 3).map Prod.snd ∧
      (engineUnknown key known).contract?.bind (Json.field? "suggestions") =
        some (Json.strings (closeNames key known))) ∧
    ∀ name, score name key =
        (if name.length + key.length = 0 then 1
          else 2 * (total (blocks name key) : Rat) / (name.length + key.length : Nat)) ∧
      (∀ m ∈ blocks name key, m.Shared name.toList key.toList) ∧
      (blocks name key).Pairwise Block.Before ∧
      total (blocks name key) ≤
        ((name.toList : Multiset Char) ∩ (key.toList : Multiset Char)).card ∧
      ((name.toList : Multiset Char) ∩ (key.toList : Multiset Char)).card ≤
        min name.length key.length := by
  constructor
  · obtain ⟨ranked, hperm, hranked, hclose⟩ := exists_ranked key known
    exact ⟨ranked, hperm, hranked.imp ranksBefore_iff.1, hclose, rfl⟩
  · intro name
    refine ⟨score_eq_share name key, ?_, sharedBlocks_ordered .., ?_, ?_⟩
    · exact fun m hm => shared_of_mem_sharedBlocks hm
    · rw [← sharedCount_eq_card]
      exact total_blocks_le name key
    · rw [← sharedCount_eq_card, ← String.length_toList, ← String.length_toList]
      exact sharedCount_le ..

/-- **A key that is known is suggested before everything else**, whatever else is known and whichever
of its characters count; for no other name comes to the full score. -/
theorem known_key_first (key : String) :
    (∀ known, key ∈ known → ∃ rest, closeNames key known = key :: rest ∧
      (engineUnknown key known).contract?.bind (Json.field? "suggestions") =
        some (Json.strings (key :: rest))) ∧
      ∀ name, score name key = 1 ↔ name = key := by
  refine ⟨?_, fun name => score_eq_one_iff⟩
  intro known hknown
  obtain ⟨ranked, hperm, hranked, hclose⟩ := exists_ranked key known
  have hfull : score key key = 1 := score_eq_one_iff.2 rfl
  have hmem : ((1, key) : Scored) ∈ ranked := by
    refine hperm.mem_iff.2 (List.mem_filter.2 ⟨?_, decide_eq_true closeScore_le_one⟩)
    exact List.mem_map.2 ⟨key, hknown, by rw [hfull]⟩
  cases ranked with
  | nil => cases hmem
  | cons best rest =>
    have hbest : best.2 = key := by
      rcases List.mem_cons.1 hmem with hbest | hrest
      · rw [← hbest]
      · -- what ranks before the key has a full score as well
        have hbefore := ranksBefore_iff.1 ((List.pairwise_cons.1 hranked).1 _ hrest)
        obtain ⟨name, -, rfl⟩ :=
          List.mem_map.1 (List.mem_filter.1 (hperm.mem_iff.1 List.mem_cons_self)).1
        rcases hbefore with hmore | ⟨hsame, -⟩
        · exact absurd hmore (not_lt.2 (score_le_one name key))
        · exact score_eq_one_iff.1 hsame
    have hfirst : closeNames key known = key :: (rest.take 2).map Prod.snd := by
      rw [hclose, ← hbest]
      rfl
    refine ⟨_, hfirst, ?_⟩
    rw [← hfirst]
    rfl

/-- A name of two hundred and one characters, most of which are too frequent to count. -/
def longName : String := String.ofList (List.replicate 200 'a' ++ ['b'])

/-- The long name is suggested first where it is known, and another one has a lower score. -/
theorem long_name_first :
    'a' ∈ frequentIn longName.toList ∧ longName ∈ ["page", longName, longName ++ "c"] ∧
      (∃ rest, closeNames longName ["page", longName, longName ++ "c"] = longName :: rest ∧
        (engineUnknown longName ["page", longName, longName ++ "c"]).contract?.bind
          (Json.field? "suggestions") = some (Json.strings (longName :: rest))) ∧
      score (longName ++ "c") longName ≠ 1 := by
  have hknown : longName ∈ ["page", longName, longName ++ "c"] := by simp
  have hother : longName ++ "c" ≠ longName := by
    intro heq
    have hlength := congrArg String.length heq
    rw [String.length_append] at hlength
    exact absurd hlength (Nat.ne_of_gt (Nat.lt_add_of_pos_right (by decide)))
  obtain ⟨hfirst, hfull⟩ := known_key_first longName
  exact ⟨mem_frequentIn.2 (by decide +kernel), hknown, hfirst _ hknown,
    fun hone => hother ((hfull _).1 hone)⟩

end Fault

end AssetPipeline
