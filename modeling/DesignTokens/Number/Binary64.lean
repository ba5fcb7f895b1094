/-! # Double precision numbers

A double is "not a number" or a sign with a rank: the non-negative doubles, zero and infinity
included, counted in ascending order. The rank of a finite double is its bit pattern, so the value
of rank `k` is `k` units of `2 ^ -1074` below `2 ^ 52`, and from there on each run of `2 ^ 52` ranks
doubles the unit. All arithmetic is exact arithmetic on natural numbers followed by one rounding to
the nearest rank, a tie going to the even rank. -/
namespace DesignTokens

namespace Binary64

/-- The rank of infinity. -/
def top : Nat := 2047 * Nat.pow 2 52

end Binary64

inductive Binary64
  | nan
  | signed (negative : Bool) (rank : Fin (Binary64.top + 1))
  deriving DecidableEq

namespace Binary64

def infinity (negative : Bool) : Binary64 := .signed negative ⟨top, Nat.lt_succ_self top⟩

def zero (negative : Bool) : Binary64 := .signed negative ⟨0, Nat.succ_pos top⟩

/-- The significand of a rank. -/
def significand (rank : Nat) : Nat :=
  if rank < Nat.pow 2 52 then rank else Nat.pow 2 52 + rank % Nat.pow 2 52

/-- The unit of a rank is two to the power of this scale less 1074. -/
def scale (rank : Nat) : Nat := rank / Nat.pow 2 52 - 1

/-- Numerator and denominator of the value of a finite rank. -/
def ratio (rank : Nat) : Nat × Nat :=
  if scale rank ≥ 1074 then (significand rank * Nat.pow 2 (scale rank - 1074), 1)
  else (significand rank, Nat.pow 2 (1074 - scale rank))

/-- The quotient rounded to the nearest whole number, a tie to the even one. -/
def roundDiv (num den : Nat) : Nat :=
  let q := num / den
  let r := num % den
  if 2 * r < den then q else if den < 2 * r then q + 1 else q + q % 2

/-- The scale at which `num / den` has a significand of 53 bits, or the least scale there is. -/
def fittingScale (num den : Nat) : Nat := (num * Nat.pow 2 1074 / den).log2 - 52

/-- The rank nearest to `num / den`, infinity when that is beyond the last finite one. -/
def nearestRank (num den : Nat) : Nat :=
  let s := fittingScale num den
  min top (s * Nat.pow 2 52 + roundDiv (num * Nat.pow 2 1074) (den * Nat.pow 2 s))

def ofRatio (negative : Bool) (num den : Nat) : Binary64 :=
  .signed negative ⟨nearestRank num den, Nat.lt_succ_of_le (Nat.min_le_left ..)⟩

def ofInt (n : Int) : Binary64 := ofRatio (n < 0) n.natAbs 1

/-- The double nearest to `digits * 10 ^ exponent`. Beyond four hundred places on either side the
answer is infinity or zero whatever the digits are. -/
def ofDecimal (negative : Bool) (digits : Nat) (exponent : Int) : Binary64 :=
  let length : Int := (Nat.log2 digits : Int) * 30103 / 100000
  if digits = 0 then zero negative
  else if exponent + length > 400 then infinity negative
  else if exponent + length < -400 then zero negative
  else if 0 ≤ exponent then ofRatio negative (digits * Nat.pow 10 exponent.toNat) 1
  else ofRatio negative digits (Nat.pow 10 (-exponent).toNat)

def isNegative : Binary64 → Bool
  | .nan => false
  | .signed negative _ => negative

def isFinite : Binary64 → Bool
  | .nan => false
  | .signed _ rank => rank.val < top

def isZero : Binary64 → Bool
  | .nan => false
  | .signed _ rank => rank.val = 0

/-- Greater than zero. -/
def isPositive : Binary64 → Bool
  | .nan => false
  | .signed negative rank => !negative && rank.val ≠ 0

def neg : Binary64 → Binary64
  | .nan => .nan
  | .signed negative rank => .signed (!negative) rank

/-- The value as a signed fraction; what is not finite has none. -/
def toRatio? : Binary64 → Option (Int × Nat)
  | .nan => none
  | .signed negative rank =>
    if rank.val < top then
      let (num, den) := ratio rank.val
      some (if negative then -(num : Int) else num, den)
    else none

/-- The value if it is a whole number. -/
def toInt? (x : Binary64) : Option Int :=
  match x.toRatio? with
  | none => none
  | some (num, den) => if num.natAbs % den = 0 then some (num / (den : Int)) else none

/-- The greatest whole number that is not above the value times `factor`. -/
def floorScaled? (x : Binary64) (factor : Nat) : Option Int :=
  x.toRatio?.map fun (num, den) => (num * (factor : Int)).fdiv (den : Int)

/-- The sum, rounded once; opposite infinities have none. -/
def add (x y : Binary64) : Binary64 :=
  match x.toRatio?, y.toRatio? with
  | some (a, b), some (c, d) =>
    let num := a * (d : Int) + c * (b : Int)
    ofRatio (num < 0) num.natAbs (b * d)
  | some _, none => y
  | none, some _ => x
  | none, none => if x = y then x else nan

/-- The product with a finite double that is greater than zero, rounded once. -/
def scaleBy (x y : Binary64) : Binary64 :=
  match x.toRatio?, y.toRatio? with
  | some (a, b), some (c, d) => ofRatio x.isNegative (a.natAbs * c.natAbs) (b * d)
  | _, _ => x

end Binary64

end DesignTokens
