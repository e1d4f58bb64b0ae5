/-
AssetPipeline/Double.lean

Binary floating-point numbers of 64 bits, by their bits.

A finite number is a whole number, its mantissa, times a power of two.  All finite
numbers are whole multiples of the least positive one, so that they can be
compared with each other and with integers as whole numbers.
-/

namespace AssetPipeline

/-- A floating-point number. -/
structure Double where
  bits : UInt64
  deriving DecidableEq

namespace Double

/-- The number that arithmetic has computed. -/
def ofFloat (x : Float) : Double := ⟨x.toBits⟩

/-- The number, to compute with. -/
def toFloat (x : Double) : Float := Float.ofBits x.bits

/-! ### The parts of a number -/

/-- The sign bit. -/
def isNegative (x : Double) : Bool := x.bits >>> 63 == 1

/-- The eleven exponent bits. -/
def exponentBits (x : Double) : Nat := (x.bits >>> 52 &&& 0x7ff).toNat

/-- The fifty-two bits of the fraction. -/
def fractionBits (x : Double) : Nat := (x.bits &&& 0xfffffffffffff).toNat

/-- Whether the number is finite. -/
def isFinite (x : Double) : Bool := x.exponentBits != 2047

/-- Whether this is no number at all. -/
def isNaN (x : Double) : Bool := !x.isFinite && x.fractionBits != 0

/-- The whole number whose multiple by a power of two a finite number is, without its sign. -/
def mantissa (x : Double) : Nat :=
  if x.exponentBits = 0 then x.fractionBits else x.fractionBits + 0x10000000000000

/-- The exponent of that power, raised by 1075. -/
def scale (x : Double) : Nat := max x.exponentBits 1

/-- Whether the next number towards zero is only half as far away as the one on the other side. -/
def isNarrow (x : Double) : Bool := x.fractionBits == 0 && decide (1 < x.exponentBits)

/-! ### Values -/

/-- How often an integer has the least positive number. -/
def unitsOf (n : Int) : Int := n * Nat.pow 2 1074

/-- How often a finite number has the least positive one. -/
def units (x : Double) : Int :=
  let size := x.mantissa * Nat.pow 2 (x.scale - 1)
  if x.isNegative then -size else size

/-- Whether two numbers are equal: the same number, or two forms of zero. -/
def equal (x y : Double) : Bool :=
  x == y || x.isFinite && y.isFinite && x.units == y.units

/-- Whether a number has the value of an integer. -/
def equalsInt (x : Double) (n : Int) : Bool := x.isFinite && x.units == unitsOf n

theorem equal_comm (x y : Double) : x.equal y = y.equal x := by
  unfold equal
  rw [BEq.comm (a := x), BEq.comm (a := x.units), Bool.and_comm x.isFinite]

end Double

end AssetPipeline
