import DynamicForms.Number.Double

/-!
# `DynamicForms.Number.Shortest` — the fewest digits that read back

The decimal text of a double has as few significant digits as still round to that double; among
those it is the nearest to the exact value. For one digit, two, and so on, the two neighbours of the
value on that decimal grid are tried; seventeen digits always suffice.

## Contents
- `Interval` and `Interval.holds`: the reals that round to a given significand.
- `gridHit?`: the better of the two neighbours on a grid, if one is in the interval.
- `shortest`: digits and exponent.
-/

namespace DynamicForms.Double

/-- The reals that round to one significand, over a common denominator: `low ≤ x / den ≤ high`, the
ends included exactly if the significand is even. -/
structure Interval where
  /-- The lower end, times the denominator. -/
  low : Nat
  /-- The value itself, times the denominator. -/
  value : Nat
  /-- The upper end, times the denominator. -/
  high : Nat
  /-- The common denominator. -/
  den : Nat
  /-- Whether the ends belong to it. -/
  closed : Bool

/-- The interval of `mantissa * 2 ^ exponent`. Below a power of two the grid is finer, so the lower
end is nearer. -/
def interval (mantissa : Nat) (exponent : Int) : Interval :=
  let below := if mantissa = Nat.pow 2 52 && exponent != minExponent then 1 else 2
  let scale := Nat.pow 2 (exponent - 2).toNat
  ⟨(4 * mantissa - below) * scale, 4 * mantissa * scale, (4 * mantissa + 2) * scale,
    Nat.pow 2 (2 - exponent).toNat, mantissa % 2 == 0⟩

/-- Whether `num / den'` lies in the interval. -/
def Interval.holds (i : Interval) (num den' : Nat) : Bool :=
  if i.closed then i.low * den' ≤ num * i.den && num * i.den ≤ i.high * den'
  else i.low * den' < num * i.den && num * i.den < i.high * den'

/-- `count * 10 ^ power` as a quotient. -/
def gridPoint (count : Nat) (power : Int) : Nat × Nat :=
  (count * Nat.pow 10 power.toNat, Nat.pow 10 (-power).toNat)

/-- The neighbour of the value on the grid of step `10 ^ power` that is in the interval; of two, the
nearer one, and the even one of two equally near. -/
def gridHit? (i : Interval) (power : Int) : Option Nat :=
  let step := gridPoint 1 power
  let num := i.value * step.2
  let den := i.den * step.1
  let down := num / den
  let rest := num % den
  let hit (n : Nat) : Bool :=
    let p := gridPoint n power
    i.holds p.1 p.2
  match hit down && down != 0, hit (down + 1) with
  | true, true =>
    if 2 * rest < den then some down
    else if den < 2 * rest then some (down + 1)
    else if down % 2 = 0 then some down else some (down + 1)
  | true, false => some down
  | false, true => some (down + 1)
  | false, false => none

/-- The power of ten just above `num / den`, found from below one step at a time. -/
def magnitudeFrom (num den : Nat) : (steps : Nat) → Int → Int
  | 0, power => power
  | steps + 1, power =>
    let p := gridPoint 1 power
    if num * p.2 < p.1 * den then power else magnitudeFrom num den steps (power + 1)

/-- The count of digits before the point of `num / den`; zero or negative below one tenth. -/
def magnitude (num den : Nat) : Int :=
  let estimate : Int := (((num.log2 : Int) - den.log2 - 1) * 1233) / 4096
  magnitudeFrom num den 4 (estimate - 1)

/-- Try grids of `tried + 1` digits and more. -/
def shortestFrom (i : Interval) (top : Int) : (left tried : Nat) → Nat × Int
  | 0, tried => (i.value * (gridPoint 1 (top - tried)).2 / i.den, top - tried)
  | left + 1, tried =>
    match gridHit? i (top - tried - 1) with
    | some digits => (digits, top - tried - 1)
    | none => shortestFrom i top left (tried + 1)

/-- The shortest digits of `mantissa * 2 ^ exponent` and the power of ten they stand at. -/
def shortest (mantissa : Nat) (exponent : Int) : Nat × Int :=
  let i := interval mantissa exponent
  shortestFrom i (magnitude i.value i.den) 17 0

end DynamicForms.Double
