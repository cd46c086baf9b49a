import DrawingCode.Double.Literal
import DrawingCode.Markup.Character
import DrawingCode.Markup.Fault
import DrawingCode.Text.Lowercase

/-! # Numbers and binary data in scalars

A scalar that is tagged as a number need not look like one. Underscores in it do not count. A sign
and the beginning say in which base an integer is written; colons separate the places of a number in
base sixty.

Binary data is written with sixty-four characters, of which four stand for three bytes. Other
characters do not count. Equals signs fill up an incomplete group of two or three characters, and
what follows a group that is full does not count either.
-/

namespace DrawingCode.Markup

namespace Number

open Text (CodePoint)

def isDigitIn (base : Nat) (c : Char) : Bool := (hexValue? c).any (· < base)

/-- The letter that may stand behind a zero to say which base is meant. -/
def baseLetter? (base : Nat) : Option Char :=
  if base = 2 then some 'b' else if base = 8 then some 'o' else if base = 16 then some 'x' else none

/-- The digits behind the zero and the letter that say which base is meant. -/
def withoutBase (base : Nat) : List Char → List Char
  | '0' :: c :: rest => if baseLetter? base = some c.toLower then rest else '0' :: c :: rest
  | text => text

/-- Checks a numeral in a base. Bases that are no power of two limit the number of digits. -/
def checkNumeral (base : Nat) (text : List CodePoint) : Except Fault Unit :=
  let digits := withoutBase base (withoutSign (Double.plainNumeral (CodePoint.toChars text)))
  let row := digits.takeWhile (isDigitIn base)
  if base = 10 ∧ mostDigits < row.length then .error (.tooManyDigits row.length)
  else if digits.isEmpty ∨ row.length < digits.length then .error (.notInteger base text)
  else .ok ()

/-- A text without underscores. -/
def withoutSeparators (text : List CodePoint) : List CodePoint := text.filter (· != .char '_')

/-- What follows the sign at the front of a text, or all of it if there is none. -/
def unsigned : List CodePoint → List CodePoint
  | .char '+' :: rest | .char '-' :: rest => rest
  | text => text

/-- The places of a number in base sixty. -/
def places (text : List CodePoint) : List (List CodePoint) := text.splitOn (.char ':')

def checkInteger (text : List CodePoint) : Except Fault Unit :=
  match unsigned (withoutSeparators text) with
  | [] => .error .emptyNumber
  | [.char '0'] => .ok ()
  | .char '0' :: .char 'b' :: digits => checkNumeral 2 digits
  | .char '0' :: .char 'x' :: digits => checkNumeral 16 digits
  | .char '0' :: digits => checkNumeral 8 (.char '0' :: digits)
  | digits => (places digits).forM (checkNumeral 10)

/-- Checks one place of a number, or all of it. -/
def checkDecimal (text : List CodePoint) : Except Fault Unit :=
  match Double.read? (String.ofList (CodePoint.toChars text)) with
  | some _ => .ok ()
  | none => .error (.notNumber text)

def mostPlaces : Nat := 174

def checkFloat (text : List CodePoint) : Except Fault Unit :=
  match Text.lower (withoutSeparators text) with
  | [] => .error .emptyNumber
  | spelled =>
    let magnitude := unsigned spelled
    let word := CodePoint.toChars magnitude
    if word = ".inf".toList ∨ word = ".nan".toList then .ok ()
    else
      ((places magnitude).forM checkDecimal).bind fun _ =>
        if mostPlaces < (places magnitude).length then .error .tooManyPlaces else .ok ()

end Number

namespace Binary

/-- Whether a character stands for six bits. -/
def isSextet (c : Char) : Bool := c.isAlphanum || c == '+' || c == '/'

/-- Whether binary data can be read from a text, of which `taken` characters of the current group
have been read and `filled` equals signs behind them. -/
def isComplete (taken filled : Nat) : List Char → Bool
  | [] => taken == 0
  | c :: rest =>
    if c == '=' then
      if taken < 2 then isComplete taken filled rest
      else taken + filled + 1 ≥ 4 || isComplete taken (filled + 1) rest
    else if isSextet c then isComplete ((taken + 1) % 4) 0 rest
    else isComplete taken filled rest

def isData (text : List Char) : Bool := text.all (·.toNat < 0x80) && isComplete 0 0 text

end Binary

end DrawingCode.Markup
