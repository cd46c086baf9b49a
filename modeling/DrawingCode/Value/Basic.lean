import DrawingCode.Double.Literal
import DrawingCode.Double.Written
import DrawingCode.Text.Quoted

/-! # Values

Whatever may stand in a field of a drawing. Numbers are what fields are for; all other values are
carried along and refused only where a number is needed. Code is generated from doubles: truth
values count as one and zero, and integers and texts are rounded to the nearest double.

Values are shown the way they are entered: texts between quotes, lists in square brackets, and
dictionaries in curly brackets with a colon after each key.
-/

namespace DrawingCode

/-- A value of a field. A dictionary lists its entries in the order in which they were given, each
key once. -/
inductive Value where
  | null
  | bool (b : Bool)
  | int (i : Int)
  | double (d : Double)
  | text (s : String)
  | list (items : List Value)
  | dict (entries : List (String × Value))

/-- Why a value gives no double. -/
inductive NumberError where
  /-- The text is not a numeral. -/
  | malformed (text : String)
  /-- A value of this kind is never a number. -/
  | notNumeric (typeName : String)
  /-- The integer is beyond the largest double. -/
  | tooLarge
deriving DecidableEq

def NumberError.message : NumberError → String
  | malformed text => "could not convert string to float: " ++ Text.quoted text
  | notNumeric typeName =>
    "float() argument must be a string or a real number, not '" ++ typeName ++ "'"
  | tooLarge => "int too large to convert to float"

namespace Value

def typeName : Value → String
  | null => "NoneType"
  | bool _ => "bool"
  | int _ => "int"
  | double _ => "float"
  | text _ => "str"
  | list _ => "list"
  | dict _ => "dict"

/-- The double that a value stands for. -/
def toDouble : Value → Except NumberError Double
  | bool b => .ok (if b then .one else .zero false)
  | double d => .ok d
  | int i => (Double.ofInt? i).elim (.error .tooLarge) .ok
  | text s => (Double.read? s).elim (.error (.malformed s)) .ok
  | other => .error (.notNumeric other.typeName)

/-- The numeral that stands for a value in generated code. -/
def numeral (v : Value) : Except NumberError String := v.toDouble.map Double.text

mutual

def written : Value → String
  | null => "None"
  | bool b => if b then "True" else "False"
  | int i => toString i
  | double d => d.text
  | text s => Text.quoted s
  | list items => "[" ++ ", ".intercalate (writtenItems items) ++ "]"
  | dict entries => "\x7b" ++ ", ".intercalate (writtenEntries entries) ++ "\x7d"

def writtenItems : List Value → List String
  | [] => []
  | v :: rest => v.written :: writtenItems rest

def writtenEntries : List (String × Value) → List String
  | [] => []
  | (k, v) :: rest => (Text.quoted k ++ ": " ++ v.written) :: writtenEntries rest

end

end Value

end DrawingCode
