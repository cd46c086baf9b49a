import DrawingCode.Double.Nearest

/-! # The text of a double

A number is written with its shortest digits. Numbers whose first digit stands neither too high nor
too low are written out, with a point and at least one digit after it; all others have one digit
before the point and an exponent. Where the one form ends and the other begins is a format.
-/

namespace DrawingCode

/-! ## The shortest decimal that reads back

For one digit, two digits and so on, the value of a double has two neighbours among the decimals
with that many digits, one at or below it and one above. The first count of digits for which a
neighbour rounds to the double gives its shortest decimal; where both do, the nearer one is taken,
and of two equally near ones the even one. Seventeen digits are always enough.
-/

namespace Double

-- Powers of natural numbers are those of the core library, whatever other instances are in scope.
attribute [local instance (2000)] instPowNat

/-- The power of ten at which the first digit of a magnitude stands. The factor `10 ^ 400` makes
every magnitude above zero greater than one. -/
def leadingPlace (rank : Nat) : Int :=
  (Nat.toDigits 10 (units rank * 10 ^ (400 : Nat) / unitsPerOne)).length - 401

/-- The decimal at or below a magnitude whose last digit stands at `place`. -/
def below (rank : Nat) (place : Int) : Decimal :=
  ⟨units rank * 10 ^ (-place).toNat / (unitsPerOne * 10 ^ place.toNat), place⟩

/-- The decimal next above `below`. -/
def above (rank : Nat) (place : Int) : Decimal := ⟨(below rank place).digits + 1, place⟩

/-- Whether the decimal above is the better neighbour: it is nearer, or it is as near and even. -/
def roundsUp (rank : Nat) (place : Int) : Bool :=
  let spacing := unitsPerOne * 10 ^ place.toNat
  let rest := units rank * 10 ^ (-place).toNat % spacing
  spacing < 2 * rest || spacing == 2 * rest && (below rank place).digits % 2 == 1

/-- The best decimal with its last digit at `place` that rounds to a magnitude, if there is one. -/
def decimalAt? (rank : Nat) (place : Int) : Option Decimal :=
  let low := below rank place
  let high := above rank place
  match nearestRankOfDecimal low == rank, nearestRankOfDecimal high == rank with
  | true, true => some (if roundsUp rank place then high else low)
  | true, false => some low
  | false, true => some high
  | false, false => none

/-- The shortest decimal that rounds to a finite magnitude above zero, without zeros at its end. -/
def shortest (rank : Nat) : Decimal :=
  let found := (List.range 17).findSome? fun further : Nat =>
    decimalAt? rank (leadingPlace rank - further)
  (found.getD (below rank (leadingPlace rank - 16))).dropZeros 17

end Double

/-! ## Formats -/

/-- The decisions that a number format makes. -/
structure NumberFormat where
  /-- The least power of ten whose digit may come first in a number that is written out. -/
  lowestPlace : Int
  /-- The least power of ten that is too high for a number that is written out. -/
  highestPlace : Int
  /-- The least number of digits of an exponent. -/
  exponentDigits : Nat
  /-- The text of infinity, without a sign. -/
  infinityText : String
  /-- The text of what is no number. -/
  nanText : String

/-- Numbers of generated code are written out from `0.0001` up to below ten to the sixteenth, and
exponents have two digits or more. -/
def NumberFormat.code : NumberFormat := ⟨-4, 16, 2, "inf", "nan"⟩

namespace Decimal

/-- The text of a decimal that is written out, its first digit standing at `place`. -/
def plainText (digits : List Char) (place : Int) : List Char :=
  if place < 0 then
    '0' :: '.' :: (List.replicate (-place - 1).toNat '0' ++ digits)
  else if digits.length ≤ place.toNat + 1 then
    digits ++ List.replicate (place.toNat + 1 - digits.length) '0' ++ ['.', '0']
  else
    digits.take (place.toNat + 1) ++ '.' :: digits.drop (place.toNat + 1)

/-- The digits of an exponent, filled up with zeros to the least width. -/
def exponentText (width exponent : Nat) : List Char :=
  let digits := Nat.toDigits 10 exponent
  List.replicate (width - digits.length) '0' ++ digits

/-- The text of a decimal with an exponent, its first digit standing at `place`. -/
def scaledText (format : NumberFormat) (digits : List Char) (place : Int) : List Char :=
  digits.take 1 ++ (if digits.length ≤ 1 then [] else '.' :: digits.drop 1) ++
    'e' :: (if place < 0 then '-' else '+') :: exponentText format.exponentDigits place.natAbs

/-- The text of a positive decimal without zeros at its end. -/
def text (format : NumberFormat) (d : Decimal) : List Char :=
  let digits := Nat.toDigits 10 d.digits
  let place := d.exponent + digits.length - 1
  if format.lowestPlace ≤ place ∧ place < format.highestPlace then plainText digits place
  else scaledText format digits place

end Decimal

namespace Double

def magnitudeText (format : NumberFormat) (rank : Nat) : List Char :=
  if rank = 0 then ['0', '.', '0']
  else if rank = infinityRank then format.infinityText.toList
  else (shortest rank).text format

/-- The text of a double: a minus sign where the sign is negative, and the text of the magnitude. -/
def textIn (format : NumberFormat) (d : Double) : String :=
  if d.isNaN then format.nanText
  else String.ofList ((if d.negative then ['-'] else []) ++ magnitudeText format d.rank)

/-- The text of a double in generated code. -/
def text (d : Double) : String := d.textIn .code

end Double

end DrawingCode
