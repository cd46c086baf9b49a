import DrawingCode.Double.Basic

/-! # Rounding to the nearest double

A ratio of natural numbers is rounded to the nearest magnitude, and a tie goes to the even rank.
Since the magnitudes of one scale are evenly spaced, this is one division: the scale is chosen so
that the quotient has 53 binary digits (or is a count of single units, below that), and the quotient
added to the scale is the rank. A carry out of the quotient leads to the next scale by itself.

A decimal is a natural number of digits with a power of ten. Dividing by ten for as long as nothing
is lost gives the form whose digits are the significant ones.
-/

namespace DrawingCode

-- Powers of natural numbers are those of the core library, whatever other instances are in scope.
attribute [local instance (2000)] instPowNat

/-- The number `digits * 10 ^ exponent`. -/
structure Decimal where
  digits : Nat
  exponent : Int
deriving DecidableEq

namespace Decimal

def numerator (d : Decimal) : Nat := d.digits * 10 ^ d.exponent.toNat

def denominator (d : Decimal) : Nat := 10 ^ (-d.exponent).toNat

/-- The same number with at most `fuel` zeros moved from the end of the digits to the exponent. -/
def dropZeros : Nat → Decimal → Decimal
  | 0, d => d
  | fuel + 1, d =>
    if d.digits % 10 = 0 then dropZeros fuel ⟨d.digits / 10, d.exponent + 1⟩ else d

end Decimal

namespace Double

/-- The rank of the magnitude nearest to `numerator / denominator`, a tie going to the even rank.
Magnitudes that are too large get `infinityRank` or a greater rank. -/
def nearestRank (numerator denominator : Nat) : Nat :=
  let amount := numerator * unitsPerOne
  let scale := (amount / denominator).log2 - 52
  let spacing := denominator * 2 ^ scale
  let whole := amount / spacing
  let rest := amount % spacing
  scale * 2 ^ (52 : Nat) + whole +
    if spacing < 2 * rest ∨ spacing = 2 * rest ∧ whole % 2 = 1 then 1 else 0

/-- The rank nearest to a decimal. Decimals above `10 ^ 400` are far above every double, and those
below `10 ^ (-400)` are far below half a unit, so neither needs its power of ten. -/
def nearestRankOfDecimal (d : Decimal) : Nat :=
  if d.digits = 0 then 0
  else if 400 < d.exponent then infinityRank
  else if d.exponent < -(d.digits.log2 + 400) then 0
  else nearestRank d.numerator d.denominator

/-- The nearest double to a signed decimal; the sign is kept on zero and on infinity. -/
def ofDecimal (negative : Bool) (d : Decimal) : Double := ofRank negative (nearestRankOfDecimal d)

/-- The nearest double to an integer, or none where that would be infinite. -/
def ofInt? (i : Int) : Option Double :=
  if nearestRank i.natAbs 1 < infinityRank then some (ofRank (i < 0) (nearestRank i.natAbs 1))
  else none

end Double

end DrawingCode
