/-
AssetPipeline/Text/Fixed.lean

Floating-point numbers with two decimal places.

A number is taken as an exact fraction and rounded to hundredths, a tie going to
the even neighbour.  The sign is kept even where everything else rounds to zero.
-/
import AssetPipeline.Double

namespace AssetPipeline.Text.Fixed

/-- Round the quotient of two numbers to the nearest whole number, a tie to the even one. -/
def roundQuotient (num den : Nat) : Nat :=
  let q := num / den
  let r := num % den
  if 2 * r < den then q else if den < 2 * r then q + 1 else if q % 2 = 0 then q else q + 1

/-- A finite number in hundredths, without its sign. -/
def hundredths (x : Double) : Nat :=
  if 1075 ≤ x.scale then x.mantissa * 100 * Nat.pow 2 (x.scale - 1075)
  else roundQuotient (x.mantissa * 100) (Nat.pow 2 (1075 - x.scale))

/-- A number of hundredths with a point. -/
def pointed (n : Nat) : String :=
  toString (n / 100) ++ "." ++ toString (n % 100 / 10) ++ toString (n % 10)

/-- The number with two decimal places. -/
def text (x : Double) : String :=
  if x.isNaN then "nan"
  else
    let body := if x.isFinite then pointed (hundredths x) else "inf"
    if x.isNegative then "-" ++ body else body

/-- A rounded quotient is within half a unit of the exact one. -/
theorem roundQuotient_bounds (num den : Nat) (h : 0 < den) :
    2 * (roundQuotient num den * den) ≤ 2 * num + den ∧
      2 * num ≤ 2 * (roundQuotient num den * den) + den := by
  have hdiv := Nat.div_add_mod num den
  have hmod := Nat.mod_lt num h
  have hmul : den * (num / den) = num / den * den := Nat.mul_comm _ _
  unfold roundQuotient
  simp only
  split
  · omega
  · split
    · rw [Nat.add_mul]
      omega
    · split
      · omega
      · rw [Nat.add_mul]
        omega

end AssetPipeline.Text.Fixed
