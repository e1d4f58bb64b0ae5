/-
AssetPipeline/Text/LowerCase.lean

Lower case by the full mapping of Unicode 14.

Each capital goes to its small letter, the dotted capital I to two characters,
and the capital sigma to one of two small letters: to the final one when a cased
letter stands before it and none after it, ignorable characters being looked
over on both sides.
-/
import AssetPipeline.Text.CaseTable

namespace AssetPipeline.Text

/-! ### Properties of one character -/

/-- Whether a character has case. -/
def isCased (c : Char) : Bool := CodeRange.covers casedRanges c.toNat

/-- Whether a character is looked over when its neighbours are examined. -/
def isCaseIgnorable (c : Char) : Bool := CodeRange.covers ignorableRanges c.toNat

namespace CaseRun

/-- Whether the capital `n` belongs to the run. -/
def covers (r : CaseRun) (n : Nat) : Bool :=
  decide (r.first ≤ n) && decide (n ≤ r.last) && decide ((n - r.first) % r.step = 0)

/-- The small letter of a capital of the run. -/
def small (r : CaseRun) (n : Nat) : Char := Char.ofNat ((n : Int) + r.shift).toNat

end CaseRun

/-- The small letter of `c` where it has a single one, and `c` itself where it has none. -/
def smallLetter (c : Char) : Char :=
  match caseRuns.find? (·.covers c.toNat) with
  | some r => r.small c.toNat
  | none => c

-- on plain letters, lower case is the shift from A to a
example : ∀ n : Fin 128, smallLetter (Char.ofNat n) = (Char.ofNat n).toLower := by
  decide +kernel

/-! ### Letters in their surroundings -/

/-- The capital sigma. -/
def capitalSigma : Char := Char.ofNat 0x3a3

/-- The small sigma inside a word. -/
def smallSigma : Char := Char.ofNat 0x3c3

/-- The small sigma at the end of a word. -/
def finalSigma : Char := Char.ofNat 0x3c2

/-- The capital I with a dot, whose lower case is an i and the dot. -/
def dottedCapitalI : Char := Char.ofNat 0x130

/-- The dot above, as a character of its own. -/
def dotAbove : Char := Char.ofNat 0x307

/-- Whether the next character that is not looked over is cased. -/
def casedAhead (rest : List Char) : Bool :=
  match rest.find? (!isCaseIgnorable ·) with
  | some c => isCased c
  | none => false

/-- Whether a cased letter stands before the character after `c`, if `before` says so for `c`. -/
def casedBehind (before : Bool) (c : Char) : Bool :=
  if isCaseIgnorable c then before else isCased c

/-- The lower case of `c`, after a cased letter or not, with `rest` behind it. -/
def lowerAt (before : Bool) (c : Char) (rest : List Char) : List Char :=
  if c = capitalSigma then
    if before && !casedAhead rest then [finalSigma] else [smallSigma]
  else if c = dottedCapitalI then ['i', dotAbove]
  else [smallLetter c]

/-- The lower case of a stretch of text, after a cased letter or not. -/
def lowerFrom (before : Bool) : List Char → List Char
  | [] => []
  | c :: rest => lowerAt before c rest ++ lowerFrom (casedBehind before c) rest

/-- The lower case of a text. -/
def lowerCase (s : String) : String := String.ofList (lowerFrom false s.toList)

@[simp] theorem lowerCase_empty : lowerCase "" = "" := rfl

end AssetPipeline.Text
