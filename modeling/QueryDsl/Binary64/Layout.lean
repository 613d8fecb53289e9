import QueryDsl.Binary64.Shortest

/-!
# Decimal text of a finite number

A layout says which numbers are written positionally, with at least one digit on both sides of the point, and which in
scientific form, with a signed exponent. The digits are the shortest ones (`Magnitude.shortest`).
-/

namespace QueryDsl

/-- Numbers whose scientific exponent lies between the two bounds are written positionally. -/
structure Layout where
  leastPositional : Int
  greatestPositional : Int

namespace Layout

/-- Digits with a point among or after them, or with leading zeros. -/
def positional (d : Decimal) : List Char :=
  let digits := d.significand
  if 0 ≤ d.exponent then
    digits ++ List.replicate d.exponent.toNat '0' ++ ['.', '0']
  else if 0 ≤ d.scientificExponent then
    let whole := d.scientificExponent.toNat + 1
    digits.take whole ++ '.' :: digits.drop whole
  else
    '0' :: '.' :: List.replicate (-d.scientificExponent - 1).toNat '0' ++ digits

/-- An exponent with its sign, without padding. -/
def signedExponent (e : Int) : List Char :=
  (if 0 ≤ e then '+' else '-') :: Nat.toDigits 10 e.natAbs

/-- One digit, a point and the others if there are any, then the exponent. -/
def scientific (d : Decimal) : List Char :=
  let fraction := d.significand.tail
  d.significand.take 1 ++ (if fraction.isEmpty then [] else '.' :: fraction)
    ++ 'e' :: signedExponent d.scientificExponent

/-- The text of a decimal. -/
def decimalText (l : Layout) (d : Decimal) : List Char :=
  if l.leastPositional ≤ d.scientificExponent ∧ d.scientificExponent ≤ l.greatestPositional then
    positional d
  else
    scientific d

/-- The text of a finite number, with a minus sign also before a negative zero. -/
def text (l : Layout) (x : Binary64) : List Char :=
  (if x.negative then ['-'] else []) ++ l.decimalText x.magnitude.shortest

end Layout

end QueryDsl
