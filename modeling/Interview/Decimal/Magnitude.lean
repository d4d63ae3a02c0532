/-!
# The parts of a double

A finite double is a sign and a magnitude, which is a natural number times a power of two. The
parts are read off its bits, so that all further arithmetic on them is exact.
-/

namespace Interview.Decimal

/-- The magnitude of a finite double: `significand · 2 ^ exponent`. `atPower` tells that the
significand is the least of its exponent, so that the double below is nearer than the one above. -/
structure Magnitude where
  significand : Nat
  exponent : Int
  atPower : Bool

/-- The magnitude of a finite double. -/
def Magnitude.ofFloat (x : Float) : Magnitude :=
  let bits : Nat := x.toBits.toNat % Nat.pow 2 63
  let field : Nat := bits / Nat.pow 2 52
  let fraction : Nat := bits % Nat.pow 2 52
  if field = 0 then ⟨fraction, -1074, false⟩
  else ⟨Nat.pow 2 52 + fraction, (field : Int) - 1075, fraction = 0 && 1 < field⟩

/-- The sign bit of a double. -/
def isNegative (x : Float) : Bool :=
  Nat.pow 2 63 ≤ x.toBits.toNat

/-- The integer that a finite double without a fraction equals. -/
def wholeValue? (x : Float) : Option Int :=
  if x.isNaN || x.isInf then none
  else
    let m := Magnitude.ofFloat x
    let signed (n : Nat) : Int := if isNegative x then -(n : Int) else n
    match m.exponent with
    | .ofNat n => some (signed (m.significand * Nat.pow 2 n))
    | .negSucc n =>
      let unit := Nat.pow 2 (n + 1)
      if m.significand % unit = 0 then some (signed (m.significand / unit)) else none

end Interview.Decimal
