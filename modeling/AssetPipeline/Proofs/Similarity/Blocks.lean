/-
AssetPipeline/Proofs/Similarity/Blocks.lean

The blocks that two texts share.

The longest block is taken out of both texts, and the parts on its left and on its right are dealt
with in the same way; `sharedBlocks` lists the blocks that are found, each with its place in the
whole texts.  They are parts of both texts, they do not overlap on either side, and they come in the
same order on both.  So what they hold, put together, is a text that can be had from either one by
leaving characters out, and its characters can be found in both at the same time.

None of this depends on which characters count: a search that overlooks frequent characters finds
other blocks, and maybe fewer, but blocks of both texts all the same.

Main statements: `total_sharedBlocks` for the total length, `shared_of_mem_sharedBlocks` and
`sharedBlocks_ordered` for the places of the blocks, and `exists_common_sublist`, from which
`matchedLength_le_sharedCount` and `eq_of_matchedLength` follow.
-/
import AssetPipeline.Proofs.Similarity.Longest
import Mathlib.Data.Multiset.UnionInter

namespace AssetPipeline.Similarity

variable {counts : Char → Bool} {a b : List Char} {m : Block}

/-! ### The blocks in order -/

namespace Block

/-- The block in texts that have this many characters more in front. -/
def shift (left right : Nat) (m : Block) : Block := ⟨left + m.left, right + m.right, m.size⟩

/-- The block ends before the other one starts, in both texts. -/
def Before (m n : Block) : Prop := m.left + m.size ≤ n.left ∧ m.right + m.size ≤ n.right

theorem Shared.of_take {i j : Nat} (h : m.Shared (a.take i) (b.take j)) : m.Shared a b := by
  obtain ⟨⟨hleft, hright⟩, hsame⟩ := h
  simp only [List.length_take] at hleft hright
  refine ⟨⟨by omega, by omega⟩, fun k hk => ?_⟩
  have := hsame k hk
  rwa [List.getElem?_take_of_lt (by omega), List.getElem?_take_of_lt (by omega)] at this

theorem Shared.of_drop {i j : Nat} (hi : i ≤ a.length) (hj : j ≤ b.length)
    (h : m.Shared (a.drop i) (b.drop j)) : (m.shift i j).Shared a b := by
  obtain ⟨⟨hleft, hright⟩, hsame⟩ := h
  simp only [List.length_drop] at hleft hright
  refine ⟨⟨?_, ?_⟩, fun k hk => ?_⟩
  · show i + m.left + m.size ≤ a.length
    omega
  · show j + m.right + m.size ≤ b.length
    omega
  · have := hsame k hk
    rw [List.getElem?_drop, List.getElem?_drop] at this
    show a[i + m.left + k]? = b[j + m.right + k]?
    rw [Nat.add_assoc, Nat.add_assoc, this]

/-- What the block holds is the same on both sides. -/
theorem Shared.take_drop (h : m.Shared a b) :
    (a.drop m.left).take m.size = (b.drop m.right).take m.size := by
  refine List.ext_getElem? fun k => ?_
  rw [List.getElem?_take, List.getElem?_take]
  split
  · next hk => rw [List.getElem?_drop, List.getElem?_drop, h.same k hk]
  · rfl

end Block

/-- The blocks that two texts share, from left to right. -/
def sharedBlocks (counts : Char → Bool) (a b : List Char) : List Block :=
  let m := longestBlock counts a b
  if m.size = 0 then []
  else
    sharedBlocks counts (a.take m.left) (b.take m.right) ++
      m :: (sharedBlocks counts (a.drop (m.left + m.size)) (b.drop (m.right + m.size))).map
        (Block.shift (m.left + m.size) (m.right + m.size))
termination_by a.length
decreasing_by
  · have h := (longestBlock_le counts a b).1
    have hm : (longestBlock counts a b).size ≠ 0 := by assumption
    show (a.take (longestBlock counts a b).left).length < a.length
    rw [List.length_take]
    omega
  · have h := (longestBlock_le counts a b).1
    have hm : (longestBlock counts a b).size ≠ 0 := by assumption
    show (a.drop ((longestBlock counts a b).left + (longestBlock counts a b).size)).length <
      a.length
    rw [List.length_drop]
    omega

/-- The total length of the blocks. -/
def total : List Block → Nat
  | [] => 0
  | m :: rest => m.size + total rest

theorem total_cons (m : Block) (rest : List Block) : total (m :: rest) = m.size + total rest := rfl

theorem total_append (blocks blocks' : List Block) :
    total (blocks ++ blocks') = total blocks + total blocks' := by
  induction blocks with
  | nil => exact (Nat.zero_add _).symm
  | cons m rest ih => rw [List.cons_append, total_cons, total_cons, ih, Nat.add_assoc]

theorem total_shift (left right : Nat) (blocks : List Block) :
    total (blocks.map (Block.shift left right)) = total blocks := by
  induction blocks with
  | nil => rfl
  | cons m rest ih => rw [List.map_cons, total_cons, total_cons, ih, Block.shift]

/-- **The shared length is the total length of the blocks.** -/
theorem total_sharedBlocks (counts : Char → Bool) (a b : List Char) :
    total (sharedBlocks counts a b) = matchedLength counts a b := by
  fun_induction matchedLength counts a b with
  | case1 a b m =>
    rename_i hzero
    rw [sharedBlocks]
    exact congrArg total (if_pos hzero)
  | case2 a b m =>
    rename_i hsize ihleft ihright
    rw [sharedBlocks]
    refine (congrArg total (if_neg hsize)).trans ?_
    rw [total_append, total_cons, total_shift, ihleft, ihright, Nat.add_assoc]

/-- **Each block is a part of both texts.** -/
theorem shared_of_mem_sharedBlocks {n : Block} (h : n ∈ sharedBlocks counts a b) :
    n.Shared a b := by
  fun_induction sharedBlocks counts a b generalizing n with
  | case1 => cases h
  | case2 a b m =>
    rename_i hsize ihleft ihright
    have hm := longestBlock_shared counts a b
    rcases List.mem_append.1 h with hleft | hrest
    · exact (ihleft hleft).of_take
    · rcases List.mem_cons.1 hrest with rfl | hright
      · exact hm
      · obtain ⟨n', hn', rfl⟩ := List.mem_map.1 hright
        exact (ihright hn').of_drop hm.fits.1 hm.fits.2

/-- **The blocks do not overlap, and they come in the same order in both texts.** -/
theorem sharedBlocks_ordered (counts : Char → Bool) (a b : List Char) :
    (sharedBlocks counts a b).Pairwise Block.Before := by
  fun_induction sharedBlocks counts a b with
  | case1 => exact .nil
  | case2 a b m =>
    rename_i hsize ihleft ihright
    have hbefore : ∀ n ∈ sharedBlocks counts (a.take m.left) (b.take m.right), n.Before m := by
      intro n hn
      obtain ⟨hleft, hright⟩ := (shared_of_mem_sharedBlocks hn).fits
      simp only [List.length_take] at hleft hright
      exact ⟨by omega, by omega⟩
    have hafter : ∀ n ∈ (sharedBlocks counts (a.drop (m.left + m.size))
        (b.drop (m.right + m.size))).map (Block.shift (m.left + m.size) (m.right + m.size)),
        m.Before n := by
      intro n hn
      obtain ⟨n', -, rfl⟩ := List.mem_map.1 hn
      exact ⟨Nat.le_add_right _ _, Nat.le_add_right _ _⟩
    refine List.pairwise_append.2 ⟨ihleft, List.pairwise_cons.2 ⟨hafter, ?_⟩, ?_⟩
    · refine List.pairwise_map.2 (ihright.imp fun {n n'} h => ?_)
      obtain ⟨hleft, hright⟩ := h
      simp only [Block.Before, Block.shift]
      omega
    · intro n hn n' hn'
      obtain ⟨hleft, hright⟩ := hbefore n hn
      rcases List.mem_cons.1 hn' with rfl | hn'
      · exact ⟨hleft, hright⟩
      · obtain ⟨hleft', hright'⟩ := hafter n' hn'
        exact ⟨by omega, by omega⟩

/-! ### What the blocks hold -/

/-- Pieces of a text that do not overlap are, put together, the text without some characters. -/
theorem flatMap_pieces_sublist (text : List Char) {start : Block → Nat} {blocks : List Block}
    (hordered : blocks.Pairwise fun m n => start m + m.size ≤ start n) {front : Nat}
    (hfront : ∀ m ∈ blocks, front ≤ start m) :
    (blocks.flatMap fun m => (text.drop (start m)).take m.size).Sublist (text.drop front) := by
  induction blocks generalizing front with
  | nil => exact List.nil_sublist _
  | cons m rest ih =>
    obtain ⟨hm, hrest⟩ := List.pairwise_cons.1 hordered
    have htail := ih hrest hm
    rw [← List.drop_drop] at htail
    have hpiece := (List.Sublist.refl ((text.drop (start m)).take m.size)).append htail
    rw [List.take_append_drop] at hpiece
    rw [List.flatMap_cons]
    exact hpiece.trans (List.drop_sublist_drop_left _ (hfront m List.mem_cons_self))

theorem length_flatMap_pieces {text : List Char} {start : Block → Nat} {blocks : List Block}
    (h : ∀ m ∈ blocks, start m + m.size ≤ text.length) :
    (blocks.flatMap fun m => (text.drop (start m)).take m.size).length = total blocks := by
  induction blocks with
  | nil => rfl
  | cons m rest ih =>
    have hm := h m List.mem_cons_self
    rw [List.flatMap_cons, List.length_append, total_cons,
      ih fun n hn => h n (List.mem_cons_of_mem m hn), List.length_take, List.length_drop]
    omega

/-- **As many characters as the shared length counts can be had from either text by leaving some
out**: those that the blocks hold. -/
theorem exists_common_sublist (counts : Char → Bool) (a b : List Char) :
    ∃ common : List Char, common.Sublist a ∧ common.Sublist b ∧
      common.length = matchedLength counts a b := by
  have hordered := sharedBlocks_ordered counts a b
  have hshared := @shared_of_mem_sharedBlocks counts a b
  refine ⟨(sharedBlocks counts a b).flatMap fun m => (a.drop m.left).take m.size, ?_, ?_, ?_⟩
  · exact flatMap_pieces_sublist a (hordered.imp And.left) fun _ _ => Nat.zero_le _
  · -- the blocks hold the same in the second text
    have hsame : (sharedBlocks counts a b).flatMap (fun m => (a.drop m.left).take m.size) =
        (sharedBlocks counts a b).flatMap fun m => (b.drop m.right).take m.size :=
      List.flatMap_congr fun m hm => (hshared hm).take_drop
    rw [hsame]
    exact flatMap_pieces_sublist b (hordered.imp And.right) fun _ _ => Nat.zero_le _
  · rw [length_flatMap_pieces fun m hm => (hshared hm).fits.1, total_sharedBlocks]

/-! ### Bounds -/

/-- The characters that two texts share are those of both as bags. -/
theorem sharedCount_eq_card (a b : List Char) :
    sharedCount a b = ((a : Multiset Char) ∩ (b : Multiset Char)).card := by
  induction a generalizing b with
  | nil => simp [sharedCount]
  | cons x a ih =>
    rw [sharedCount, ← Multiset.cons_coe]
    split
    · next hmem =>
      rw [Multiset.cons_inter_of_pos _ (Multiset.mem_coe.2 hmem), Multiset.card_cons, ih,
        Multiset.coe_erase]
    · next hnot => rw [Multiset.cons_inter_of_neg _ (mt Multiset.mem_coe.1 hnot), ih]

/-- No more characters are shared than the shorter text has. -/
theorem sharedCount_le (a b : List Char) : sharedCount a b ≤ min a.length b.length := by
  rw [sharedCount_eq_card, ← Multiset.coe_card, ← Multiset.coe_card]
  exact Nat.le_min.2 ⟨Multiset.card_le_card Multiset.inter_le_left,
    Multiset.card_le_card Multiset.inter_le_right⟩

/-- **The blocks hold no more than the characters of both texts allow.** -/
theorem matchedLength_le_sharedCount (counts : Char → Bool) (a b : List Char) :
    matchedLength counts a b ≤ sharedCount a b := by
  obtain ⟨common, ha, hb, hlength⟩ := exists_common_sublist counts a b
  rw [← hlength, sharedCount_eq_card, ← Multiset.coe_card]
  exact Multiset.card_le_card
    (Multiset.le_inter (Multiset.coe_le.2 ha.subperm) (Multiset.coe_le.2 hb.subperm))

theorem matchedLength_nil (counts : Char → Bool) (b : List Char) :
    matchedLength counts [] b = 0 := by
  have h := (matchedLength_le_sharedCount counts [] b).trans (sharedCount_le [] b)
  simpa using h

/-- **A text shares with itself all of its characters**, whichever count. -/
theorem matchedLength_self (counts : Char → Bool) (a : List Char) :
    matchedLength counts a a = a.length := by
  rw [matchedLength, longestBlock_self]
  simp only [List.take_zero, matchedLength_nil, Nat.zero_add, List.drop_length, Nat.add_zero]
  split
  · next hzero => exact hzero.symm
  · rfl

/-- **Texts that share all of their characters are the same.** -/
theorem eq_of_matchedLength (ha : matchedLength counts a b = a.length)
    (hb : matchedLength counts a b = b.length) : a = b := by
  obtain ⟨common, hsuba, hsubb, hlength⟩ := exists_common_sublist counts a b
  have heqa : common = a := hsuba.eq_of_length (hlength.trans ha)
  have heqb : common = b := hsubb.eq_of_length (hlength.trans hb)
  exact heqa.symm.trans heqb

end AssetPipeline.Similarity
