/-! # Characters of markup

The classes of characters that the markup tells apart. Lines end at a line feed, at the next-line
control, or at a line or paragraph separator; the first two count as the same break, and the
separators stand for themselves.
-/

namespace DrawingCode.Markup

/-- Line ends in one form: a carriage return, alone or before a line feed, becomes a line feed. -/
def normalizeBreaks : List Char → List Char
  | [] => []
  | '\r' :: '\n' :: rest => '\n' :: normalizeBreaks rest
  | '\r' :: rest => '\n' :: normalizeBreaks rest
  | c :: rest => c :: normalizeBreaks rest

/-- Whether a character may stand in a text at all. -/
def isAllowed (c : Char) : Bool :=
  let n := c.toNat
  n == 9 || n == 10 || n == 13 || 0x20 ≤ n && n ≤ 0x7e || n == 0x85 || 0xa0 ≤ n && n ≤ 0xd7ff ||
    0xe000 ≤ n && n ≤ 0xfffd || 0x10000 ≤ n

def isBreak (c : Char) : Bool := c == '\n' || c == '\x85' || c == '\u2028' || c == '\u2029'

/-- What a line break stands for in a scalar. -/
def breakChar (c : Char) : Char := if c == '\x85' then '\n' else c

/-- Whether a character is a space or a tab. -/
def isSpace (c : Char) : Bool := c == ' ' || c == '\t'

/-- Whether a character separates words: a space, a tab or a line break. -/
def isGap (c : Char) : Bool := isSpace c || isBreak c

/-- Whether a text is at its end or at a gap. -/
def atGap (text : List Char) : Bool := text.head?.all isGap

/-- Whether a text is at its end, at a space or at a line break, but not at a tab. -/
def atSpace (text : List Char) : Bool := text.head?.all fun c => c == ' ' || isBreak c

def atLineEnd (text : List Char) : Bool := text.head?.all isBreak

/-- Whether a line begins with a marker between documents. -/
def atMarker : List Char → Bool
  | '-' :: '-' :: '-' :: rest => atGap rest
  | '.' :: '.' :: '.' :: rest => atGap rest
  | _ => false

/-- Whether a character may stand in the name of an anchor or of a tag handle. -/
def isNameChar (c : Char) : Bool := c.isAlphanum || c == '-' || c == '_'

def skipSpaces (text : List Char) : List Char := text.dropWhile (· == ' ')

def skipComment : List Char → List Char
  | '#' :: rest => rest.dropWhile (!isBreak ·)
  | text => text

/-- The start of the next line, if nothing but spaces and a comment is left on this line. -/
def restOfLine? (text : List Char) : Option (List Char) :=
  let rest := skipComment (skipSpaces text)
  if atLineEnd rest then some (rest.drop 1) else none

/-- What follows the sign at the front of a text, or all of it if there is none. -/
def withoutSign : List Char → List Char
  | '+' :: rest | '-' :: rest => rest
  | text => text

def hexValue? (c : Char) : Option Nat :=
  if c.isDigit then some (c.toNat - '0'.toNat)
  else if 'a' ≤ c ∧ c ≤ 'f' then some (c.toNat - 'a'.toNat + 10)
  else if 'A' ≤ c ∧ c ≤ 'F' then some (c.toNat - 'A'.toNat + 10)
  else none

def hexNumber? (digits : List Char) : Option Nat :=
  digits.foldlM (fun n c => (hexValue? c).map (16 * n + ·)) 0

end DrawingCode.Markup
