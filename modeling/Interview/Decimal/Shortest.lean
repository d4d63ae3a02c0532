import Interview.Decimal.Magnitude

/-!
# The shortest decimal that reads back

Every finite double lies inside an interval of real numbers that are nearer to it than to any other
double. Among the decimals of that interval with the fewest significant digits, `shortest` finds
the one nearest to the double. The search goes through the decimal grids of one to seventeen digits
and tests the double's two neighbours on each, in exact arithmetic.
-/

namespace Interview.Decimal

/-- A decimal `digits · 10 ^ (point - count)`, where `count` is the number of its digits. -/
structure Digits where
  digits : List Char
  point : Int
deriving DecidableEq, Repr

/-- The power `base ^ exponent` as a fraction. -/
def powerRatio (base : Nat) : (exponent : Int) → Nat × Nat
  | .ofNat n => (Nat.pow base n, 1)
  | .negSucc n => (1, Nat.pow base (n + 1))

/-- The interval of a double, in quarters of the unit `top / bottom` of its significand: from `low`
to `high` around `centre`, ends included if `closed`. -/
structure Interval where
  low : Nat
  centre : Nat
  high : Nat
  closed : Bool
  top : Nat
  bottom : Nat

/-- The reals that are nearest to a double. -/
def Magnitude.interval (m : Magnitude) : Interval :=
  let (top, bottom) := powerRatio 2 (m.exponent - 2)
  { low := 4 * m.significand - (if m.atPower then 1 else 2)
    centre := 4 * m.significand
    high := 4 * m.significand + 2
    closed := m.significand % 2 = 0
    top, bottom }

/-- Whether the fraction `num / den` lies in the interval. -/
def Interval.holds (range : Interval) (num den : Nat) : Bool :=
  let value := num * range.bottom
  let low := range.low * range.top * den
  let high := range.high * range.top * den
  if range.closed then low ≤ value && value ≤ high else low < value && value < high

/-- The position of the decimal point of a positive fraction: the least `k` with
`num / den < 10 ^ k`, sought upwards from `k`. -/
def pointFrom : (fuel : Nat) → (k : Int) → (num den : Nat) → Int
  | 0, k, _, _ => k
  | fuel + 1, k, num, den =>
    let (top, bottom) := powerRatio 10 k
    if num * bottom < top * den then k else pointFrom fuel (k + 1) num den

/-- The position of the decimal point of the interval's centre. -/
def Interval.point (range : Interval) : Int :=
  let num := range.centre * range.top
  let log := (num.log2 : Int) - (range.bottom.log2 : Int)
  pointFrom 4 ((log - 1) * 30103 / 100000) num range.bottom

/-- The neighbour of the centre on the grid of `count` digits that lies in the interval; of two
such neighbours the nearer, and of two equally near the even one. -/
def Interval.onGrid? (range : Interval) (point : Int) (count : Nat) : Option Nat :=
  let (top, bottom) := powerRatio 10 (point - count)
  let num := range.centre * range.top * bottom
  let den := range.bottom * top
  let below := num / den
  let above := below + 1
  let twice := 2 * (num % den)
  match range.holds (below * top) bottom, range.holds (above * top) bottom with
  | true, true =>
    if twice < den then some below
    else if den < twice then some above
    else some (below + below % 2)
  | true, false => some below
  | false, true => some above
  | false, false => none

/-- The digits of a grid point, without trailing zeros. -/
def Digits.ofGrid (value : Nat) (point : Int) (count : Nat) : Digits :=
  let all := Nat.toDigits 10 value
  { digits := (all.reverse.dropWhile (· == '0')).reverse
    point := point + ((all.length : Int) - count) }

/-- The first grid, from `count` digits on, with a neighbour in the interval. -/
def Interval.firstGrid (range : Interval) (point : Int) : (fuel count : Nat) → Digits
  | 0, count =>
    let (top, bottom) := powerRatio 10 (point - count)
    .ofGrid (range.centre * range.top * bottom / (range.bottom * top)) point count
  | fuel + 1, count =>
    match range.onGrid? point count with
    | some value => .ofGrid value point count
    | none => range.firstGrid point fuel (count + 1)

/-- The fewest digits that read back as the magnitude of a finite double. -/
def shortest (x : Float) : Digits :=
  let m := Magnitude.ofFloat x
  if m.significand = 0 then ⟨['0'], 1⟩
  else
    let range := m.interval
    range.firstGrid range.point 17 1

end Interview.Decimal
