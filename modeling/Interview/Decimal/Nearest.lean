/-!
# The nearest binary number

A decimal numeral denotes a ratio of natural numbers. `nearest` gives the double-precision number
closest to such a ratio, and of two that are equally close the one with an even significand. All
arithmetic is exact on natural numbers; the result is assembled from its bits.
-/

namespace Interview.Decimal

/-- The quotient `num / den` rounded to a natural number, a half going to the even neighbour. -/
def roundDiv (num den : Nat) : Nat :=
  let floor := num / den
  let twice := 2 * (num % den)
  if twice < den then floor
  else if den < twice then floor + 1
  else floor + floor % 2

/-- The fraction `num / den` multiplied by the power `2 ^ exponent`. -/
def scaleByTwo (num den : Nat) : (exponent : Int) → Nat × Nat
  | .ofNat n => (num * Nat.pow 2 n, den)
  | .negSucc n => (num, den * Nat.pow 2 (n + 1))

/-- The largest exponent of two whose power does not exceed a positive ratio. -/
def log2Ratio (num den : Nat) : Int :=
  let guess : Int := (num.log2 : Int) - den.log2
  let (top, bottom) := scaleByTwo num den (-guess)
  if bottom ≤ top then guess else guess - 1

/-- The bits of positive infinity. -/
def infinityBits : Nat := 0x7FF * Nat.pow 2 52

/-- The bits of the double nearest to a non-negative ratio. A carry out of the significand moves on
into the exponent field, where it belongs. -/
def nearestBits (num den : Nat) : Nat :=
  if num = 0 then 0
  else
    let unit := max (log2Ratio num den - 52) (-1074)
    let (top, bottom) := scaleByTwo num den (-unit)
    let significand := roundDiv top bottom
    let bits := (unit + 1074).toNat * Nat.pow 2 52 + significand
    min bits infinityBits

/-- The double with the given sign and magnitude bits. -/
def ofMagnitude (negative : Bool) (bits : Nat) : Float :=
  Float.ofBits (UInt64.ofNat (if negative then bits + Nat.pow 2 63 else bits))

/-- The double nearest to `± digits · 10 ^ exponent`. Exponents far outside the range of a double
are settled without computing their power. -/
def ofScientific (negative : Bool) (digits : Nat) (exponent : Int) : Float :=
  if digits = 0 then ofMagnitude negative 0
  else if 400 < exponent then ofMagnitude negative infinityBits
  else if exponent < -(400 + (digits.log2 : Int)) then ofMagnitude negative 0
  else
    match exponent with
    | .ofNat n => ofMagnitude negative (nearestBits (digits * Nat.pow 10 n) 1)
    | .negSucc n => ofMagnitude negative (nearestBits digits (Nat.pow 10 (n + 1)))

/-- The double nearest to an integer, unless the integer lies beyond all of them. -/
def ofInt? (n : Int) : Option Float :=
  let bits := nearestBits n.natAbs 1
  if bits < infinityBits then some (ofMagnitude (n < 0) bits) else none

/-- Positive infinity. -/
def infinity : Float := ofMagnitude false infinityBits

/-- The number that stands for no number. -/
def notANumber : Float := ofMagnitude false (infinityBits + Nat.pow 2 51)

end Interview.Decimal
