/-
AssetPipeline/Text/Hex.lean

Numbers and bytes in hexadecimal.

Bytes are written as pairs of small digits.  They are read more freely: digits of
either case, with blanks in front of a pair and at the end.  Reading fails at a
position, the first where a digit is missing; in a text with a character outside ASCII
that is the position of the first such character.  Bytes are read as they were written
(`readHex_hexBytes`).
-/

namespace AssetPipeline.Text

/-! ### Writing -/

/-- The number `n` in hexadecimal, padded with zeros to `width` digits. -/
def hexDigits (width n : Nat) : List Char :=
  let digits := Nat.toDigits 16 n
  List.replicate (width - digits.length) '0' ++ digits

/-- The bytes as pairs of hexadecimal digits. -/
def hexBytes (bytes : List UInt8) : String :=
  String.ofList (bytes.flatMap fun b => hexDigits 2 b.toNat)

/-! ### Reading -/

/-- The value of a hexadecimal digit. -/
def hexValue? (c : Char) : Option Nat :=
  if '0' ≤ c ∧ c ≤ '9' then some (c.toNat - '0'.toNat)
  else if 'a' ≤ c ∧ c ≤ 'f' then some (c.toNat - 'a'.toNat + 10)
  else if 'A' ≤ c ∧ c ≤ 'F' then some (c.toNat - 'A'.toNat + 10)
  else none

/-- Whether a character may stand between pairs: a blank, or one of the five controls from tab to
carriage return. -/
def isHexBlank (c : Char) : Bool := c == ' ' || decide (9 ≤ c.toNat ∧ c.toNat ≤ 13)

/-- The bytes in pairs of digits, the first character of which is at `position`; or the position
where a digit is missing. -/
def readPairs : (position : Nat) → List Char → Except Nat (List UInt8)
  | _, [] => .ok []
  | position, c :: rest =>
    if isHexBlank c then readPairs (position + 1) rest
    else
      match hexValue? c, rest with
      | none, _ => .error position
      | some _, [] => .error (position + 1)
      | some high, d :: rest =>
        match hexValue? d with
        | none => .error (position + 1)
        | some low => (readPairs (position + 2) rest).map (UInt8.ofNat (16 * high + low) :: ·)

/-- The bytes that a text stands for, or the position where it fails to. -/
def readHex (s : String) : Except Nat (List UInt8) :=
  match s.toList.findIdx? fun c => decide (128 ≤ c.toNat) with
  | some position => .error position
  | none => readPairs 0 s.toList

/-! ### Reading what was written -/

theorem hexDigits_two {n : Nat} (h : n < 256) :
    hexDigits 2 n = [(n / 16).digitChar, (n % 16).digitChar] := by
  have : ∀ n < 256, hexDigits 2 n = [(n / 16).digitChar, (n % 16).digitChar] := by
    decide +kernel
  exact this n h

theorem digitChar_hex {d : Nat} (h : d < 16) :
    isHexBlank d.digitChar = false ∧ hexValue? d.digitChar = some d ∧ d.digitChar.toNat < 128 := by
  have : ∀ d < 16, isHexBlank d.digitChar = false ∧ hexValue? d.digitChar = some d ∧
      d.digitChar.toNat < 128 := by
    decide
  exact this d h

theorem readPairs_hexDigits (b : UInt8) (position : Nat) (rest : List Char) :
    readPairs position (hexDigits 2 b.toNat ++ rest) =
      (readPairs (position + 2) rest).map (b :: ·) := by
  have hb := b.toNat_lt
  obtain ⟨hblank, hhigh, -⟩ := digitChar_hex (show b.toNat / 16 < 16 by omega)
  obtain ⟨-, hlow, -⟩ := digitChar_hex (show b.toNat % 16 < 16 by omega)
  rw [hexDigits_two hb]
  have hbyte : UInt8.ofNat (16 * (b.toNat / 16) + b.toNat % 16) = b := by
    rw [Nat.div_add_mod]
    simp
  simp [readPairs, hblank, hhigh, hlow, hbyte]

theorem readPairs_flatMap (bytes : List UInt8) (position : Nat) :
    readPairs position (bytes.flatMap fun b => hexDigits 2 b.toNat) = .ok bytes := by
  induction bytes generalizing position with
  | nil => rfl
  | cons b bytes ih =>
    rw [List.flatMap_cons, readPairs_hexDigits, ih]
    rfl

/-- Bytes are read as they were written. -/
theorem readHex_hexBytes (bytes : List UInt8) : readHex (hexBytes bytes) = .ok bytes := by
  have hascii : ∀ c ∈ bytes.flatMap (fun b => hexDigits 2 b.toNat), ¬ 128 ≤ c.toNat := by
    intro c hc
    obtain ⟨b, -, hc⟩ := List.mem_flatMap.mp hc
    have hb := b.toNat_lt
    rw [hexDigits_two hb] at hc
    have hhigh := (digitChar_hex (show b.toNat / 16 < 16 by omega)).2.2
    have hlow := (digitChar_hex (show b.toNat % 16 < 16 by omega)).2.2
    rcases List.mem_cons.mp hc with rfl | hc
    · omega
    · rw [List.mem_singleton.mp hc]
      omega
  have hnone : (bytes.flatMap fun b => hexDigits 2 b.toNat).findIdx?
      (fun c => decide (128 ≤ c.toNat)) = none := by
    rw [List.findIdx?_eq_none_iff]
    exact fun c hc => decide_eq_false (hascii c hc)
  simp only [readHex, hexBytes, String.toList_ofList, hnone]
  exact readPairs_flatMap bytes 0

end AssetPipeline.Text
