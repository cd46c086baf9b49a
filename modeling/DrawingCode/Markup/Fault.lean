import DrawingCode.Text.Quoted

/-! # Faults of markup

A text that breaks a rule of the markup is malformed, whatever the rule. A text can also keep the
rules and still hold a scalar that has no value, such as a day that is not in the calendar, or nodes
inside each other too deep to be followed.
-/

namespace DrawingCode.Markup

/-- Why a date or a time of day does not exist. -/
inductive CalendarFault where
  | year (year : Nat)
  | month
  | day
  | hour
  | minute
  | second
  /-- The offset of a time zone, in seconds, is a day or more. -/
  | offset (seconds : Int)
deriving DecidableEq

/-- Why a text gives no document. -/
inductive Fault where
  /-- The bytes that are to be the text are not one. -/
  | undecodable
  /-- The text breaks a rule of the markup. -/
  | malformed
  /-- Nodes lie inside each other deeper than they are followed. -/
  | tooDeep
  /-- An escape gives a character by a code that is above all characters. -/
  | noCharacter
  /-- An escape gives a character by a code that has more than 31 bits. -/
  | hugeCode
  /-- A scalar that is to be an integer is none in its base. -/
  | notInteger (base : Nat) (text : List Text.CodePoint)
  /-- An integer has more decimal digits than can be converted. -/
  | tooManyDigits (count : Nat)
  /-- A scalar that is to be a number is none. -/
  | notNumber (text : List Text.CodePoint)
  /-- A number written in base sixty has too many places. -/
  | tooManyPlaces
  /-- A scalar that is to be a number is empty. -/
  | emptyNumber
  /-- A scalar that is to be a truth value is none. -/
  | notBoolean (text : List Text.CodePoint)
  /-- A scalar that is to be a date is none. -/
  | notDate
  /-- A date stands inside a mapping instead of in a scalar of its own. -/
  | wrappedDate
  /-- A date does not exist. -/
  | calendar (fault : CalendarFault)
deriving DecidableEq

/-- The longest row of decimal digits that is converted to an integer. -/
def mostDigits : Nat := 4300

/-- How much a message shows of a text that is no integer. -/
def mostShown : Nat := 200

/-- A span of seconds as whole days and seconds within a day. -/
def spanText (seconds : Int) : String :=
  let days := seconds / 86400
  let rest := seconds % 86400
  "datetime.timedelta(days=" ++ toString days ++
    (if rest = 0 then "" else ", seconds=" ++ toString rest) ++ ")"

def CalendarFault.message : CalendarFault → String
  | year n => "year " ++ toString n ++ " is out of range"
  | month => "month must be in 1..12"
  | day => "day is out of range for month"
  | hour => "hour must be in 0..23"
  | minute => "minute must be in 0..59"
  | second => "second must be in 0..59"
  | offset seconds =>
    "offset must be a timedelta strictly between -timedelta(hours=24) and timedelta(hours=24), " ++
      "not " ++ spanText seconds ++ "."

/-- The message of a fault; faults of bytes and of form have none of their own. -/
def Fault.message : Fault → String
  | undecodable | malformed => ""
  | tooDeep => "maximum recursion depth exceeded"
  | noCharacter => "chr() arg not in range(0x110000)"
  | hugeCode => "Python int too large to convert to C int"
  | notInteger base text =>
    "invalid literal for int() with base " ++ toString base ++ ": " ++
      String.ofList ((Text.quotedPoints text).take mostShown)
  | tooManyDigits count =>
    "Exceeds the limit (" ++ toString mostDigits ++
      " digits) for integer string conversion: value has " ++ toString count ++
      " digits; use sys.set_int_max_str_digits() to increase the limit"
  | notNumber text =>
    "could not convert string to float: " ++ String.ofList (Text.quotedPoints text)
  | tooManyPlaces => "int too large to convert to float"
  | emptyNumber => "string index out of range"
  | notBoolean text => String.ofList (Text.quotedPoints text)
  | notDate => "'NoneType' object has no attribute 'groupdict'"
  | wrappedDate => "expected string or bytes-like object, got 'list'"
  | calendar fault => fault.message

end DrawingCode.Markup
