/-
AssetPipeline/Similarity.lean

How alike two texts are, and the close names among the known ones.

Two texts are compared by the total length of the blocks that they share: the
longest common block first, then the blocks to its left and to its right, each
found in the same way.  The longest block is sought among the characters that
count, and is then widened on both sides through equal characters of any kind.
In a long key the characters that occur too often do not count.

Main statement: `longestBlock_le` says that the longest block lies inside both
texts, which bounds the recursion of `matchedLength`.
-/

namespace AssetPipeline.Similarity

/-! ### The longest common block -/

/-- The number of leading characters that two texts share, all of them counting. -/
def commonLead (counts : Char → Bool) : List Char → List Char → Nat
  | x :: a, y :: b => if x = y ∧ counts x = true then commonLead counts a b + 1 else 0
  | _, _ => 0

/-- A stretch that two texts share: where it starts in each, and its length. -/
structure Block where
  left : Nat
  right : Nat
  size : Nat
  deriving DecidableEq

namespace Block

/-- The second block if it is longer than the first. -/
@[inline] def orLonger (best next : Block) : Block := if best.size < next.size then next else best

/-- The block lies inside texts of these lengths. -/
def Fits (m : Block) (lengthLeft lengthRight : Nat) : Prop :=
  m.left + m.size ≤ lengthLeft ∧ m.right + m.size ≤ lengthRight

/-- The block with the equal characters on both of its sides. -/
def widen (a b : List Char) (m : Block) : Block :=
  let back := commonLead (fun _ => true) (a.take m.left).reverse (b.take m.right).reverse
  let ahead :=
    commonLead (fun _ => true) (a.drop (m.left + m.size)) (b.drop (m.right + m.size))
  ⟨m.left - back, m.right - back, back + m.size + ahead⟩

end Block

/-- The longest of `best` and the blocks that start at `i` in the first text, whose rest there is
`a`, and at `j` or later in the second, whose rest there is the last argument. -/
def longestAt (counts : Char → Bool) (a : List Char) (i : Nat) :
    Nat → List Char → Block → Block
  | _, [], best => best
  | j, b@(_ :: rest), best =>
    longestAt counts a i (j + 1) rest (best.orLonger ⟨i, j, commonLead counts a b⟩)

/-- The longest of `best` and the blocks that start at `i` or later in the first text. -/
def longestFrom (counts : Char → Bool) (b : List Char) : Nat → List Char → Block → Block
  | _, [], best => best
  | i, x :: a, best =>
    longestFrom counts b (i + 1) a (if counts x then longestAt counts (x :: a) i 0 b best else best)

/-- The first of the longest blocks, earliest in the first text and then in the second, widened. -/
def longestBlock (counts : Char → Bool) (a b : List Char) : Block :=
  (longestFrom counts b 0 a ⟨0, 0, 0⟩).widen a b

/-! ### The longest block lies inside both texts -/

theorem commonLead_le (counts : Char → Bool) (a b : List Char) :
    commonLead counts a b ≤ a.length ∧ commonLead counts a b ≤ b.length := by
  induction a generalizing b with
  | nil => simp [commonLead]
  | cons x a ih =>
    cases b with
    | nil => simp [commonLead]
    | cons y b =>
      have := ih b
      rw [commonLead]
      split
      · simp only [List.length_cons]
        omega
      · simp

theorem orLonger_fits {m n : Block} {p q : Nat} (hm : m.Fits p q) (hn : n.Fits p q) :
    (m.orLonger n).Fits p q := by
  unfold Block.orLonger
  split <;> assumption

theorem longestAt_fits {counts : Char → Bool} {a : List Char} {i p q : Nat}
    (hp : i + a.length ≤ p) {b : List Char} {j : Nat} (hq : j + b.length ≤ q) {best : Block}
    (h : best.Fits p q) : (longestAt counts a i j b best).Fits p q := by
  induction b generalizing j best with
  | nil => exact h
  | cons y b ih =>
    have hlead := commonLead_le counts a (y :: b)
    simp only [List.length_cons] at hq hlead
    refine ih (by omega) (orLonger_fits h ⟨?_, ?_⟩)
    · show i + commonLead counts a (y :: b) ≤ p
      omega
    · show j + commonLead counts a (y :: b) ≤ q
      omega

theorem longestFrom_fits {counts : Char → Bool} {b : List Char} {p q : Nat}
    (hq : b.length ≤ q) {a : List Char} {i : Nat} (hp : i + a.length ≤ p) {best : Block}
    (h : best.Fits p q) : (longestFrom counts b i a best).Fits p q := by
  induction a generalizing i best with
  | nil => exact h
  | cons x a ih =>
    simp only [List.length_cons] at hp
    refine ih (by omega) ?_
    split
    · exact longestAt_fits (by simpa using hp) (by simpa using hq) h
    · exact h

theorem widen_fits {a b : List Char} {m : Block} (h : m.Fits a.length b.length) :
    (m.widen a b).Fits a.length b.length := by
  have hback := commonLead_le (fun _ => true) (a.take m.left).reverse (b.take m.right).reverse
  have hahead :=
    commonLead_le (fun _ => true) (a.drop (m.left + m.size)) (b.drop (m.right + m.size))
  unfold Block.Fits at h ⊢
  simp only [Block.widen, List.length_reverse, List.length_take, List.length_drop] at *
  omega

theorem longestBlock_le (counts : Char → Bool) (a b : List Char) :
    (longestBlock counts a b).Fits a.length b.length := by
  refine widen_fits (longestFrom_fits (Nat.le_refl _) ?_ ?_)
  · simp
  · exact ⟨Nat.zero_le _, Nat.zero_le _⟩

/-! ### The shared length -/

/-- The total length of the shared blocks. -/
def matchedLength (counts : Char → Bool) (a b : List Char) : Nat :=
  let m := longestBlock counts a b
  if m.size = 0 then 0
  else
    matchedLength counts (a.take m.left) (b.take m.right) + m.size +
      matchedLength counts (a.drop (m.left + m.size)) (b.drop (m.right + m.size))
termination_by a.length
decreasing_by
  · have h := (longestBlock_le counts a b).1
    have hm : (longestBlock counts a b).size ≠ 0 := by assumption
    show (a.take (longestBlock counts a b).left).length < a.length
    rw [List.length_take]
    omega
  · have h := (longestBlock_le counts a b).1
    have hm : (longestBlock counts a b).size ≠ 0 := by assumption
    show (a.drop ((longestBlock counts a b).left + (longestBlock counts a b).size)).length <
      a.length
    rw [List.length_drop]
    omega

/-- The number of characters that two texts share, whatever their order. -/
def sharedCount : List Char → List Char → Nat
  | [], _ => 0
  | x :: a, b => if x ∈ b then sharedCount a (b.erase x) + 1 else sharedCount a b

/-! ### Frequent characters -/

/-- How often a character may occur in a long key and still count: once in a hundred characters,
and once again. -/
def frequencyLimit (key : List Char) : Nat := key.length / 100 + 1

/-- The characters that do not count in a key, each of them once: in a key of two hundred characters
or more, those that occur too often. -/
def frequentIn (key : List Char) : List Char :=
  if key.length < 200 then []
  else
    let limit := frequencyLimit key
    key.eraseDups.filter fun c => decide (limit < key.count c)

theorem mem_frequentIn {key : List Char} {c : Char} :
    c ∈ frequentIn key ↔ 200 ≤ key.length ∧ frequencyLimit key < key.count c := by
  unfold frequentIn
  split
  · have : ¬ 200 ≤ key.length := by omega
    simp [this]
  · have hlong : 200 ≤ key.length := by omega
    simp only [List.mem_filter, List.mem_eraseDups, decide_eq_true_eq, hlong, true_and]
    refine ⟨And.right, fun h => ⟨?_, h⟩⟩
    exact List.count_pos_iff.mp (Nat.lt_of_le_of_lt (Nat.zero_le _) h)

/-- Whether a character counts beside the frequent ones, which do not. -/
def isCounted (frequent : List Char) (c : Char) : Bool := !frequent.contains c

/-! ### Scores -/

/-- The share of `matched` characters, taken on both sides, among `total`; everything if there are
none. -/
def share (matched total : Nat) : Rat := if total = 0 then 1 else (2 * matched : Rat) / total

/-- How alike `name` is to `key`, from 0 to 1. -/
def score (name key : String) : Rat :=
  let a := name.toList
  let b := key.toList
  let frequent := frequentIn b
  share (matchedLength (isCounted frequent) a b) (a.length + b.length)

/-- The score that the lengths alone allow. -/
def lengthBound (name key : String) : Rat :=
  let a := name.toList
  let b := key.toList
  share (min a.length b.length) (a.length + b.length)

/-- The score that the characters allow, whatever their order. -/
def countBound (name key : String) : Rat :=
  let a := name.toList
  let b := key.toList
  share (sharedCount a b) (a.length + b.length)

/-! ### Close names -/

/-- The least score of a close name. -/
def closeScore : Rat := 3 / 5

/-- A name with its score. -/
abbrev Scored := Rat × String

/-- The score of a name that is close to `key`; the cheap bounds are tried first. -/
def scored? (key name : String) : Option Scored :=
  if closeScore ≤ lengthBound name key ∧ closeScore ≤ countBound name key then
    let s := score name key
    if closeScore ≤ s then some (s, name) else none
  else none

/-- Whether `x` comes before `y` among the close names: by score, then by the order of texts, the
greatest first. -/
def ranksBefore (x y : Scored) : Bool :=
  decide (y.1 < x.1 ∨ x.1 = y.1 ∧ y.2 ≤ x.2)

/-- At most three names close to `key`, the best first. -/
def closeNames (key : String) (known : List String) : List String :=
  (((known.filterMap (scored? key)).mergeSort ranksBefore).take 3).map Prod.snd

end AssetPipeline.Similarity
