import DrawingCode.Double.Nearest
import DrawingCode.Text.Character

/-! # Reading a number from a text

A numeral is an optional sign followed by a word for infinity or for what is no number, or by
decimal digits with an optional point and an optional exponent. Blanks around a numeral do not
count, digits of any script do, and a single underscore may stand between two digits. A decimal is
rounded to the nearest double, and one that is too large becomes infinity.
-/

namespace DrawingCode.Double

/-- The characters of a numeral with its digits brought to one script and the blanks around it
removed. -/
def plainNumeral (text : List Char) : List Char :=
  (Text.trimBlank text).map fun c => ((Text.decimalValue? c).map Nat.digitChar).getD c

/-- The text without underscores, if each of them stands between two digits. `afterDigit` tells
whether a digit comes just before. -/
def dropSeparators? (afterDigit : Bool) : List Char → Option (List Char)
  | [] => some []
  | c :: rest =>
    if c = '_' then
      if afterDigit && (rest.head?.any Char.isDigit) then dropSeparators? false rest else none
    else (dropSeparators? c.isDigit rest).map (c :: ·)

/-- Splits a sign off: whether it is negative, and what follows. -/
def splitSign : List Char → Bool × List Char
  | '-' :: rest => (true, rest)
  | '+' :: rest => (false, rest)
  | text => (false, text)

/-- The exponent that ends a numeral; a numeral without one has the exponent zero. -/
def readExponent? : List Char → Option Int
  | [] => some 0
  | mark :: rest =>
    let (negative, digits) := splitSign rest
    if (mark = 'e' ∨ mark = 'E') ∧ digits ≠ [] ∧ digits.all Char.isDigit then
      let size : Int := Nat.ofDigitChars 10 digits 0
      some (if negative then -size else size)
    else none

/-- The decimal that a numeral without sign and underscores denotes. -/
def readDecimal? (text : List Char) : Option Decimal :=
  let whole := text.takeWhile Char.isDigit
  let (fraction, rest) := match text.dropWhile Char.isDigit with
    | '.' :: more => (more.takeWhile Char.isDigit, more.dropWhile Char.isDigit)
    | other => ([], other)
  if whole = [] ∧ fraction = [] then none
  else (readExponent? rest).map fun exponent =>
    ⟨Nat.ofDigitChars 10 (whole ++ fraction) 0, exponent - fraction.length⟩

/-- The double that a text denotes. -/
def read? (text : String) : Option Double := do
  let (negative, magnitude) := splitSign (← dropSeparators? false (plainNumeral text.toList))
  let word := magnitude.map Char.toLower
  if word = ['i', 'n', 'f'] ∨ word = ['i', 'n', 'f', 'i', 'n', 'i', 't', 'y'] then
    return infinite negative
  else if word = ['n', 'a', 'n'] then return nan
  else return ofDecimal negative (← readDecimal? magnitude)

end DrawingCode.Double
