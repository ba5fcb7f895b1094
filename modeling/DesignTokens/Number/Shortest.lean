import DesignTokens.Number.Binary64

/-! # Shortest decimals

The shortest decimal of a finite double is the decimal of fewest digits that lies in the interval
of reals rounding to that double; among those it is the nearest, and of two equally near the even
one. -/
namespace DesignTokens.Shortest

/-- A decimal number `digits * 10 ^ exponent`. -/
structure Decimal where
  digits : Nat
  exponent : Int
  deriving DecidableEq, Repr

/-- The interval of reals that round to one double, as numerators over one denominator. The value
lies inside, and both ends belong to it exactly if the significand is even. -/
structure Interval where
  low : Nat
  value : Nat
  high : Nat
  den : Nat
  closed : Bool

/-- Below a power of two the gap to the next double is half the gap above it. -/
def interval (rank : Nat) : Interval :=
  let m := Binary64.significand rank
  let s := Binary64.scale rank
  let below := if m = Nat.pow 2 52 ∧ 0 < s then 1 else 2
  let unit := if 1076 ≤ s then Nat.pow 2 (s - 1076) else 1
  let den := if 1076 ≤ s then 1 else Nat.pow 2 (1076 - s)
  ⟨(4 * m - below) * unit, 4 * m * unit, (4 * m + 2) * unit, den, m % 2 = 0⟩

/-- `num / den` compared with `digits * 10 ^ exponent`, both brought to whole numbers. -/
def scaled (digits : Nat) (exponent : Int) (num den : Nat) : Nat × Nat :=
  if 0 ≤ exponent then (digits * Nat.pow 10 exponent.toNat * den, num)
  else (digits * den, num * Nat.pow 10 (-exponent).toNat)

/-- The decimal rounds to the double the interval belongs to. -/
def Interval.holds (i : Interval) (d : Decimal) : Bool :=
  let (x, low) := scaled d.digits d.exponent i.low i.den
  let (_, high) := scaled d.digits d.exponent i.high i.den
  (low < x && x < high) || (i.closed && (x = low || x = high))

/-- How far the decimal is from the value, on the scale that belongs to the exponent. -/
def Interval.distance (i : Interval) (d : Decimal) : Nat :=
  let (x, value) := scaled d.digits d.exponent i.value i.den
  (x - value) + (value - x)

/-- The least `p` with `num / den < 10 ^ p`, searched upwards from `p`. -/
def magnitudeFrom (num den : Nat) : Nat → Int → Int
  | 0, p => p
  | fuel + 1, p =>
    let (x, y) := scaled 1 p num den
    if y < x then p else magnitudeFrom num den fuel (p + 1)

/-- The search starts a little below the estimate that the binary logarithms give. -/
def magnitude (num den : Nat) : Int :=
  magnitudeFrom num den 8 ((((num.log2 : Int) - (den.log2 : Int)) * 30103).fdiv 100000 - 2)

/-- The two neighbours of the value on the grid of multiples of `10 ^ exponent`. -/
def neighbours (i : Interval) (exponent : Int) : Decimal × Decimal :=
  let (one, value) := scaled 1 exponent i.value i.den
  (⟨value / one, exponent⟩, ⟨value / one + 1, exponent⟩)

/-- The best decimal on one grid, if a neighbour of the value lies in the interval. -/
def onGrid (i : Interval) (exponent : Int) : Option Decimal :=
  let (lower, upper) := neighbours i exponent
  match i.holds lower, i.holds upper with
  | true, true =>
    let a := i.distance lower
    let b := i.distance upper
    if a < b then some lower
    else if b < a then some upper
    else if lower.digits % 2 = 0 then some lower else some upper
  | true, false => some lower
  | false, true => some upper
  | false, false => none

/-- The decimal without zeros at its end. -/
def Decimal.trim : Nat → Decimal → Decimal
  | 0, d => d
  | fuel + 1, d =>
    if d.digits ≠ 0 ∧ d.digits % 10 = 0 then trim fuel ⟨d.digits / 10, d.exponent + 1⟩ else d

/-- The shortest decimal of a finite rank other than zero: grids are tried from one digit to
seventeen, and seventeen always suffice. -/
def shortest (rank : Nat) : Decimal :=
  let i := interval rank
  let p := magnitude i.value i.den
  let found := (List.range 17).findSome? fun (n : Nat) => onGrid i (p - 1 - (n : Int))
  (found.getD ⟨i.value, 0⟩).trim 20

end DesignTokens.Shortest
