import QueryDsl.Binary64.Basic

/-!
# The shortest decimal of a magnitude

Every real number nearer to a magnitude than to its neighbours rounds to it; the ends of that interval belong to it
exactly when the mantissa is even. `Magnitude.shortest` is the decimal with the fewest digits in the interval and, of
those with as many digits, the one nearest to the magnitude. With a given number of digits only the two neighbours of
the magnitude on that decimal grid can be nearest, so only they are tried.
-/

namespace QueryDsl

/-- The number `digits · 10 ^ exponent`. -/
structure Decimal where
  digits : Nat
  exponent : Int
  deriving DecidableEq, Repr

namespace Decimal

/-- The decimal digits of the significand, the first one first. -/
def significand (d : Decimal) : List Char := Nat.toDigits 10 d.digits

/-- The exponent of the number in scientific form, with one digit before the point. -/
def scientificExponent (d : Decimal) : Int := d.exponent + (d.significand.length : Int) - 1

/-- The same number with up to `n` trailing zeros moved into the exponent. -/
def trimZeros (d : Decimal) : Nat → Decimal
  | 0 => d
  | n + 1 => if d.digits ≠ 0 ∧ d.digits % 10 = 0 then trimZeros ⟨d.digits / 10, d.exponent + 1⟩ n else d

end Decimal

namespace Magnitude

/-- The real numbers that round to a magnitude, scaled by a common denominator. -/
structure RoundingInterval where
  low : Nat
  middle : Nat
  high : Nat
  denominator : Nat
  closed : Bool

/-- The interval between the midpoints to the two neighbours. The lower neighbour of a full power of two is nearer. -/
def roundingInterval (m : Magnitude) : RoundingInterval :=
  let unit := Nat.pow 2 m.exponent.toNat
  let below := if m.mantissa = Nat.pow 2 52 ∧ -1074 < m.exponent then 1 else 2
  { low := (4 * m.mantissa - below) * unit
    middle := 4 * m.mantissa * unit
    high := (4 * m.mantissa + 2) * unit
    denominator := 4 * m.denominator
    closed := m.mantissa % 2 = 0 }

namespace RoundingInterval

/-- Whether `digits · 10 ^ exponent` lies in the interval. -/
def contains (i : RoundingInterval) (digits : Nat) (exponent : Int) : Bool :=
  let scaled := digits * Nat.pow 10 exponent.toNat * i.denominator
  let low := i.low * Nat.pow 10 (-exponent).toNat
  let high := i.high * Nat.pow 10 (-exponent).toNat
  if i.closed then low ≤ scaled && scaled ≤ high else low < scaled && scaled < high

/-- The exponent of the first decimal digit of the middle. -/
def leadingExponent (i : RoundingInterval) : Int :=
  let guess : Int := ((Nat.toDigits 10 i.middle).length : Int) - ((Nat.toDigits 10 i.denominator).length : Int)
  if i.denominator * Nat.pow 10 guess.toNat ≤ i.middle * Nat.pow 10 (-guess).toNat then guess else guess - 1

/-- The best decimal of the interval on the grid of `10 ^ exponent`: the nearer one of the two neighbours of the
middle, on a tie the even one. -/
def onGrid (i : RoundingInterval) (exponent : Int) : Option Nat :=
  let num := i.middle * Nat.pow 10 (-exponent).toNat
  let den := i.denominator * Nat.pow 10 exponent.toNat
  let down := num / den
  let nearer := roundHalfEven num den
  let farther := if nearer = down then down + 1 else down
  if i.contains nearer exponent then some nearer
  else if i.contains farther exponent then some farther
  else none

/-- The first hit on the grids of `n + 1`, `n + 2`, … digits, tried `tries` times. -/
def firstHit (i : RoundingInterval) (leading : Int) : Nat → Nat → Decimal
  | _, 0 => ⟨i.middle, 0⟩
  | n, tries + 1 =>
    let exponent := leading - n
    match i.onGrid exponent with
    | some digits => ⟨digits, exponent⟩
    | none => i.firstHit leading (n + 1) tries

end RoundingInterval

/-- The shortest decimal that rounds to the magnitude. Seventeen digits always suffice. -/
def shortest (m : Magnitude) : Decimal :=
  if m.mantissa = 0 then
    ⟨0, 0⟩
  else
    let i := m.roundingInterval
    (i.firstHit i.leadingExponent 0 17).trimZeros 17

end Magnitude

end QueryDsl
