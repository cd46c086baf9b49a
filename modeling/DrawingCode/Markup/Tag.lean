import DrawingCode.Markup.Scalar.Timestamp

/-! # Tags

A tag says what kind of value a node of a document is. Tags are spelled as names; those of the
common kinds begin with the same words, and no other name has a meaning here.
-/

namespace DrawingCode.Markup

inductive Tag where
  | null
  | boolean
  | integer
  | float
  | binary
  | timestamp
  | text
  | sequence
  | mapping
  | set
  /-- A sequence of mappings with one entry each, kept in order. -/
  | orderedMap
  /-- A sequence of mappings with one entry each, in which keys may return. -/
  | pairs
  /-- The key under which a mapping takes in other mappings. -/
  | merge
  /-- The key under which a mapping keeps its own default. -/
  | value
  /-- A tag without a meaning here. -/
  | other
deriving DecidableEq

namespace Tag

/-- What the names of the common tags begin with. -/
def common : String := "tag:yaml.org,2002:"

/-- The common tags by the rest of their names. -/
def names : List (String × Tag) :=
  [("null", null), ("bool", boolean), ("int", integer), ("float", float), ("binary", binary),
    ("timestamp", timestamp), ("str", text), ("seq", sequence), ("map", mapping), ("set", set),
    ("omap", orderedMap), ("pairs", pairs), ("merge", merge), ("value", value)]

def ofName (name : String) : Tag :=
  ((names.find? fun known => common ++ known.1 == name).map (·.2)).getD other

/-- The tag that leaves it to the contents of a node what kind of value the node is. -/
def unspecific : String := "!"

end Tag

/-! ## Plain scalars

What kind of value a plain scalar without a tag is can be read off its text. A text that has none of
the forms below is a text. One line feed at the end of a text does not count.
-/

namespace Plain

def nullWords : List String := ["", "~", "null", "Null", "NULL"]

def booleanWords : List String :=
  ["yes", "Yes", "YES", "no", "No", "NO", "true", "True", "TRUE", "false", "False", "FALSE",
    "on", "On", "ON", "off", "Off", "OFF"]

/-- Whether a text is not empty and all its characters are of a class, with underscores among
them. -/
def isRow (isMember : Char → Bool) (text : List Char) : Bool :=
  !text.isEmpty && text.all fun c => isMember c || c == '_'

def isBinaryDigit (c : Char) : Bool := c == '0' || c == '1'

def isOctalDigit (c : Char) : Bool := '0' ≤ c && c ≤ '7'

def isHexDigit (c : Char) : Bool := (hexValue? c).isSome

/-- Whether a text is a place of a number in base sixty: one digit, or two of which the first is at
most five. -/
def isSixtieth : List Char → Bool
  | [units] => units.isDigit
  | [tens, units] => '0' ≤ tens && tens ≤ '5' && units.isDigit
  | _ => false

/-- Whether a text begins with a decimal digit and goes on with digits and underscores. -/
def isNumeral (text : List Char) : Bool :=
  text.head?.any Char.isDigit && isRow Char.isDigit text

/-- Whether a text is a numeral without a zero in front. -/
def isPositive (text : List Char) : Bool := isNumeral text && text.head? != some '0'

/-- Whether a text without a sign has the form of an integer. -/
def isMagnitude : List Char → Bool
  | ['0'] => true
  | '0' :: 'b' :: digits => isRow isBinaryDigit digits
  | '0' :: 'x' :: digits => isRow isHexDigit digits
  | '0' :: digits => isRow isOctalDigit digits
  | text => match text.splitOn ':' with
    | first :: places => isPositive first && places.all isSixtieth
    | [] => false

def isInteger (text : List Char) : Bool := isMagnitude (withoutSign text)

/-- Whether a text is nothing, or an exponent with a sign. -/
def isExponent : List Char → Bool
  | [] => true
  | mark :: sign :: digits =>
    (mark == 'e' || mark == 'E') && (sign == '+' || sign == '-') && !digits.isEmpty &&
      digits.all Char.isDigit
  | _ => false

/-- Whether a text is a fraction, with digits and underscores, and perhaps an exponent. -/
def isFraction (text : List Char) : Bool :=
  isExponent (text.dropWhile fun c => c.isDigit || c == '_')

/-- Whether a text has the form of a number that is no integer and can have a sign, the sign taken
off. -/
def isSignedFloat (text : List Char) : Bool :=
  let whole := text.takeWhile (· != '.')
  match text.dropWhile (· != '.') with
  | '.' :: fraction =>
    if whole.isEmpty then ["inf", "Inf", "INF"].contains (String.ofList fraction)
    else match whole.splitOn ':' with
      | [numeral] => isNumeral numeral && isFraction fraction
      | numeral :: places =>
        isNumeral numeral && places.all isSixtieth && fraction.all fun c => c.isDigit || c == '_'
      | [] => false
  | _ => false

/-- Whether a text has the form of a number that is no integer. One that begins with a point has no
sign. -/
def isFloat (text : List Char) : Bool :=
  isSignedFloat (withoutSign text) ||
    match text with
    | '.' :: fraction =>
      ["nan", "NaN", "NAN"].contains (String.ofList fraction) ||
        fraction.head?.any Char.isDigit && isFraction fraction
    | _ => false

def isTimestamp (text : List Char) : Bool := (Timestamp.read? text).any Timestamp.isEvident

def withoutLastBreak (text : List Char) : List Char :=
  if text.length ≠ 1 ∧ text.getLast? = some '\n' then text.dropLast else text

/-- The tag that the text of a plain scalar asks for. -/
def tag (content : List Char) : Tag :=
  let text := withoutLastBreak content
  let word := String.ofList text
  if nullWords.contains word then .null
  else if booleanWords.contains word then .boolean
  else if isFloat text then .float
  else if isInteger text then .integer
  else if isTimestamp text then .timestamp
  else if word = "<<" then .merge
  else if word = "=" then .value
  else if word = "!" ∨ word = "&" ∨ word = "*" then .other
  else .text

end Plain

end DrawingCode.Markup
