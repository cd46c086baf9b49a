import DrawingCode.Text.Character

/-! # Quoted text

A quoted text shows its characters between two quotes. Single quotes are used unless the text holds
a single quote and no double one. The quote in use and the backslash get a backslash in front, line
ends and tabs are named by a letter, and every other character that is not printable is given by its
place in two, four or eight hexadecimal digits. So is half of a surrogate pair.
-/

namespace DrawingCode.Text

/-- The hexadecimal digits of a number in small letters, filled up with zeros to a width. -/
def hexDigits (width n : Nat) : List Char :=
  let digits := Nat.toDigits 16 n
  List.replicate (width - digits.length) '0' ++ digits

def quoteFor (text : List Char) : Char :=
  if text.contains '\'' && !text.contains '"' then '"' else '\''

/-- How one character is shown between quotes. -/
def quotedChar (quote c : Char) : List Char :=
  if c = quote ∨ c = '\\' then ['\\', c]
  else if c = '\t' then ['\\', 't']
  else if c = '\n' then ['\\', 'n']
  else if c = '\r' then ['\\', 'r']
  else if isPrintable c then [c]
  else if c.toNat < 0x100 then '\\' :: 'x' :: hexDigits 2 c.toNat
  else if c.toNat < 0x10000 then '\\' :: 'u' :: hexDigits 4 c.toNat
  else '\\' :: 'U' :: hexDigits 8 c.toNat

def quotedChars (text : List Char) : List Char :=
  quoteFor text :: (text.flatMap (quotedChar (quoteFor text)) ++ [quoteFor text])

def quoted (text : String) : String := String.ofList (quotedChars text.toList)

/-- How one code point is shown between quotes. -/
def quotedPoint (quote : Char) : CodePoint → List Char
  | .char c => quotedChar quote c
  | .half code => '\\' :: 'u' :: hexDigits 4 code

def quotedPoints (points : List CodePoint) : List Char :=
  let quote := quoteFor (CodePoint.toChars points)
  quote :: (points.flatMap (quotedPoint quote) ++ [quote])

end DrawingCode.Text
