/-!
# Finite binary floating point numbers of 64 bits

A magnitude is `mantissa · 2 ^ exponent` in the one form that the format stores: either the mantissa has its full
53 bits or the exponent is the least one. Arithmetic is done on exact ratios of natural numbers and rounded once, to
the nearest magnitude and on a tie to the one with the even mantissa (`Magnitude.ofRatio`). A ratio that rounds
beyond the largest magnitude has none.
-/

namespace QueryDsl

/-- A non-negative finite number of the format, in its stored form. -/
structure Magnitude where
  mantissa : Nat
  exponent : Int
  mantissa_lt : mantissa < Nat.pow 2 53
  le_exponent : -1074 ≤ exponent
  exponent_le : exponent ≤ 971
  stored : Nat.pow 2 52 ≤ mantissa ∨ exponent = -1074
  deriving DecidableEq, Repr

namespace Magnitude

/-- The number zero. -/
def zero : Magnitude := ⟨0, -1074, by decide, by decide, by decide, .inr rfl⟩

instance : Inhabited Magnitude := ⟨zero⟩

/-- The numerator of the exact value. -/
def numerator (m : Magnitude) : Nat := m.mantissa * Nat.pow 2 m.exponent.toNat

/-- The denominator of the exact value, a power of two. -/
def denominator (m : Magnitude) : Nat := Nat.pow 2 (-m.exponent).toNat

/-- The magnitude `mantissa · 2 ^ exponent`, where the format stores it in this form. -/
def ofParts? (mantissa : Nat) (exponent : Int) : Option Magnitude :=
  if h : mantissa < Nat.pow 2 53 ∧ -1074 ≤ exponent ∧ exponent ≤ 971 ∧
      (Nat.pow 2 52 ≤ mantissa ∨ exponent = -1074) then
    some ⟨mantissa, exponent, h.1, h.2.1, h.2.2.1, h.2.2.2⟩
  else
    none

/-- The natural number nearest to `num / den`; of two nearest ones, the even one. -/
def roundHalfEven (num den : Nat) : Nat :=
  let q := num / den
  let twice := 2 * (num % den)
  if twice < den ∨ (twice = den ∧ q % 2 = 0) then q else q + 1

/-- The exponent at which the whole part of `num / den` has 53 bits, or the least exponent if that is greater. -/
def exponentOf (num den : Nat) : Int :=
  let guess : Int := (Nat.log2 num : Int) - (Nat.log2 den : Int) - 53
  let fits := num * Nat.pow 2 (-guess).toNat < Nat.pow 2 53 * (den * Nat.pow 2 guess.toNat)
  max (-1074) (if fits then guess else guess + 1)

/-- The magnitude nearest to `num / den`, or none if that is beyond the largest one. -/
def ofRatio (num den : Nat) : Option Magnitude :=
  if num = 0 then
    some zero
  else
    let e := exponentOf num den
    let q := roundHalfEven (num * Nat.pow 2 (-e).toNat) (den * Nat.pow 2 e.toNat)
    if q = Nat.pow 2 53 then ofParts? (Nat.pow 2 52) (e + 1) else ofParts? q e

/-- The magnitude nearest to a natural number. -/
def ofNat (n : Nat) : Option Magnitude := ofRatio n 1

/-- The rounded product. -/
def mul (a b : Magnitude) : Option Magnitude :=
  ofRatio (a.numerator * b.numerator) (a.denominator * b.denominator)

/-- The rounded quotient, for a divisor that is not zero. -/
def div (a b : Magnitude) : Option Magnitude :=
  ofRatio (a.numerator * b.denominator) (a.denominator * b.numerator)

end Magnitude

/-- A finite number of the format. Zero has two signs. -/
structure Binary64 where
  negative : Bool
  magnitude : Magnitude
  deriving DecidableEq, Repr

namespace Binary64

/-- Equality in value: the two zeros are the same, and every other number is the same as itself alone. -/
def same (x y : Binary64) : Bool :=
  decide (x = y ∨ (x.magnitude = Magnitude.zero ∧ y.magnitude = Magnitude.zero))

end Binary64

end QueryDsl
