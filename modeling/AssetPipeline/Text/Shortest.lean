/-
AssetPipeline/Text/Shortest.lean

Floating-point numbers with the fewest digits that tell them apart.

The numbers that round to a floating-point number form an interval around it, ends
included when the mantissa is even.  Of the decimals in that interval those with
the fewest digits are taken, and of these the nearest one, a tie going to the even
digit.  Decimals from a ten-thousandth up to ten to the sixteenth are written out;
all others have an exponent of at least two digits with its sign.
-/
import AssetPipeline.Double

namespace AssetPipeline.Text.Shortest

/-! ### The digits -/

/-- A positive decimal number: a whole number times a power of ten. -/
structure Decimal where
  digits : Nat
  exponent : Int
  deriving DecidableEq

/-- The fraction of a number, its end points and the decimals around it: whole numbers over one
common denominator. -/
structure Frame where
  /-- The number itself. -/
  value : Nat
  /-- The least number that rounds to it. -/
  low : Nat
  /-- The greatest number that rounds to it. -/
  high : Nat
  /-- The denominator. -/
  unit : Nat
  /-- Whether the end points round to it too. -/
  closed : Bool

namespace Frame

/-- The frame of a finite positive number, in quarters of its last binary place. -/
def ofDouble (x : Double) : Frame :=
  let up := Nat.pow 2 (x.scale - 1075)
  let m := 4 * x.mantissa
  { value := m * up
    low := (if x.isNarrow then m - 1 else m - 2) * up
    high := (m + 2) * up
    unit := 4 * Nat.pow 2 (1075 - x.scale)
    closed := x.mantissa % 2 == 0 }

/-- The frame in units of a power of ten. -/
def inUnitsOf (f : Frame) (exponent : Int) : Frame :=
  let up := Nat.pow 10 (-exponent).toNat
  { f with
    value := f.value * up
    low := f.low * up
    high := f.high * up
    unit := f.unit * Nat.pow 10 exponent.toNat }

/-- Whether a whole number rounds to the number of the frame. -/
def holds (f : Frame) (n : Nat) : Bool :=
  if f.closed then decide (f.low ≤ n * f.unit ∧ n * f.unit ≤ f.high)
  else decide (f.low < n * f.unit ∧ n * f.unit < f.high)

/-- Of the whole numbers next to the number of the frame the one that rounds to it, the nearer one
if both do, and the even one if both are equally near. -/
def nearest? (f : Frame) : Option Nat :=
  let below := f.value / f.unit
  let above := below + 1
  let twice := 2 * f.value
  let middle := (below + above) * f.unit
  match f.holds below, f.holds above with
  | true, true =>
    if twice < middle then some below
    else if middle < twice then some above
    else if below % 2 = 0 then some below else some above
  | true, false => some below
  | false, true => some above
  | false, false => none

/-- How many decimal digits the whole part has, less one; for a number below one, how far its first
digit is behind the point, negated. -/
def magnitude (f : Frame) : Int :=
  let guess : Int := (Nat.toDigits 10 f.value).length - (Nat.toDigits 10 f.unit).length
  if f.unit * Nat.pow 10 guess.toNat ≤ f.value * Nat.pow 10 (-guess).toNat then guess
  else guess - 1

end Frame

/-- The decimal of at most `count` digits that rounds to the number, if there is one. -/
def withDigits (f : Frame) (count : Nat) : Option Decimal :=
  let exponent := f.magnitude + 1 - count
  (f.inUnitsOf exponent).nearest?.map fun digits => ⟨digits, exponent⟩

/-- The shortest decimal of a finite positive number; seventeen digits always suffice. -/
def decimal (x : Double) : Decimal :=
  let f := Frame.ofDouble x
  ((List.range 17).findSome? fun n => withDigits f (n + 1)).getD ⟨0, 0⟩

/-! ### The layout -/

/-- The digits without the zeros at the end, and how many digits stand before the point. -/
def significant (d : Decimal) : List Char × Int :=
  let digits := Nat.toDigits 10 d.digits
  ((digits.reverse.dropWhile (· = '0')).reverse, digits.length + d.exponent)

/-- Digits with a point, `before` of them before it. -/
def writtenOut (digits : List Char) (before : Int) : List Char :=
  if before ≤ 0 then '0' :: '.' :: List.replicate (-before).toNat '0' ++ digits
  else
    let n := before.toNat
    let whole := digits.take n ++ List.replicate (n - digits.length) '0'
    let rest := digits.drop n
    whole ++ '.' :: (if rest = [] then ['0'] else rest)

/-- An exponent with its sign and at least two digits. -/
def exponentText (e : Int) : List Char :=
  let digits := Nat.toDigits 10 e.natAbs
  (if e < 0 then '-' else '+') :: List.replicate (2 - digits.length) '0' ++ digits

/-- Digits with an exponent. -/
def scientific (digits : List Char) (before : Int) : List Char :=
  let head := match digits with
    | [] => []
    | [d] => [d]
    | d :: rest => d :: '.' :: rest
  head ++ 'e' :: exponentText (before - 1)

/-- A decimal as text. -/
def layOut (d : Decimal) : String :=
  let (digits, before) := significant d
  String.ofList <|
    if -4 < before ∧ before ≤ 16 then writtenOut digits before else scientific digits before

/-- A finite number without its sign. -/
def magnitudeText (x : Double) : String :=
  if x.mantissa = 0 then "0.0" else layOut (decimal x)

/-- The number as text. -/
def text (x : Double) : String :=
  if x.isNaN then "nan"
  else
    let body := if x.isFinite then magnitudeText x else "inf"
    if x.isNegative then "-" ++ body else body

end AssetPipeline.Text.Shortest
