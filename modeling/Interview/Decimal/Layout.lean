import Interview.Decimal.Shortest

/-!
# The written form of a number

The shortest digits of a double are laid out either with a decimal point in its place or in the
scientific form. A `Layout` says where the one form ends and the other begins.
-/

namespace Interview.Decimal

/-- The decisions that the digits leave open. -/
structure Layout where
  /-- The point of a positional numeral stands at this position or further right. -/
  leastPoint : Int
  /-- The point of a positional numeral stands at this position or further left. -/
  greatestPoint : Int
  /-- The exponent has at least this many digits. -/
  exponentWidth : Nat

/-- Numbers are positional from one ten-thousandth to below ten to the sixteenth, always with a
digit after the point, and an exponent has at least two digits. -/
def Layout.plain : Layout := ⟨-3, 16, 2⟩

/-- The digits with the point in its place. -/
def positional (d : Digits) : List Char :=
  if d.point ≤ 0 then
    ['0', '.'] ++ List.replicate (-d.point).toNat '0' ++ d.digits
  else
    let whole := d.point.toNat
    let front := d.digits.take whole
    let back := d.digits.drop whole
    front ++ List.replicate (whole - front.length) '0' ++
      '.' :: (if back.isEmpty then ['0'] else back)

/-- One digit, the others after a point, and a signed exponent. -/
def scientific (width : Nat) (d : Digits) : List Char :=
  let exponent := d.point - 1
  let shown := Nat.toDigits 10 exponent.natAbs
  let fraction :=
    match d.digits.drop 1 with
    | [] => []
    | back => '.' :: back
  d.digits.take 1 ++ fraction ++ ['e', if exponent < 0 then '-' else '+'] ++
    List.replicate (width - shown.length) '0' ++ shown

/-- The digits in the form that the layout chooses. -/
def Layout.write (layout : Layout) (d : Digits) : List Char :=
  if layout.leastPoint ≤ d.point && d.point ≤ layout.greatestPoint then positional d
  else scientific layout.exponentWidth d

/-- The written form of a double. -/
def write (x : Float) : List Char :=
  if x.isNaN then "nan".toList
  else
    let magnitude := if x.isInf then "inf".toList else Layout.plain.write (shortest x)
    if isNegative x then '-' :: magnitude else magnitude

/-- The written form of a double. -/
def text (x : Float) : String :=
  .ofList (write x)

end Interview.Decimal
