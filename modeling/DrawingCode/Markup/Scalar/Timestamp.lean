import DrawingCode.Markup.Character
import DrawingCode.Markup.Fault

/-! # Dates and times of day

A date is a year of four digits, a month and a day. A time of day may follow it, with a fraction of
a second and the zone that it is given for.
-/

namespace DrawingCode.Markup

/-- A time of day, and the offset of its zone in seconds if that is given as a number. -/
structure Clock where
  hour : Nat
  minute : Nat
  second : Nat
  offset : Option Int

/-- A date, with a time of day or without. -/
structure Timestamp where
  year : Nat
  month : Nat
  day : Nat
  clock : Option Clock
  /-- Whether the month and the day are written with two digits each. -/
  padded : Bool

namespace Timestamp

/-- The digits at the front of a text, if their count lies within bounds. -/
def digits? (least most : Nat) (text : List Char) : Option (Nat × List Char) :=
  let digits := text.takeWhile Char.isDigit
  if least ≤ digits.length ∧ digits.length ≤ most then
    some (Nat.ofDigitChars 10 digits 0, text.dropWhile Char.isDigit)
  else none

/-- What follows a given character. -/
def after? (c : Char) : List Char → Option (List Char)
  | first :: rest => if first = c then some rest else none
  | [] => none

/-- The zone that ends a time of day: nothing, a letter, or a signed offset. -/
def zone? : List Char → Option (Option Int)
  | ['Z'] => some none
  | sign :: rest =>
    if sign = '+' ∨ sign = '-' then do
      let (hours, rest) ← digits? 1 2 rest
      let minutes ← match rest with
        | [] => some 0
        | _ => do
          let (minutes, rest) ← digits? 2 2 (← after? ':' rest)
          if rest.isEmpty then some minutes else none
      let size : Int := 3600 * hours + 60 * minutes
      some (some (if sign = '-' then -size else size))
    else none
  | [] => none

/-- The time of day that a text consists of. -/
def clock? (text : List Char) : Option Clock := do
  let (hour, rest) ← digits? 1 2 text
  let (minute, rest) ← digits? 2 2 (← after? ':' rest)
  let (second, rest) ← digits? 2 2 (← after? ':' rest)
  let rest := match rest with
    | '.' :: more => more.dropWhile Char.isDigit
    | _ => rest
  if rest.isEmpty then some ⟨hour, minute, second, none⟩
  else (zone? (rest.dropWhile isSpace)).map fun offset => ⟨hour, minute, second, offset⟩

/-- What follows the letter or the spaces between a date and a time of day. -/
def separated? : List Char → Option (List Char)
  | 'T' :: rest | 't' :: rest => some rest
  | text => if text.head?.any isSpace then some (text.dropWhile isSpace) else none

/-- The date that a text consists of. -/
def read? (text : List Char) : Option Timestamp := do
  let (year, rest) ← digits? 4 4 text
  let monthText ← after? '-' rest
  let (month, rest) ← digits? 1 2 monthText
  let dayText ← after? '-' rest
  let (day, rest) ← digits? 1 2 dayText
  let padded := (digits? 2 2 monthText).isSome && (digits? 2 2 dayText).isSome
  match rest with
  | [] => some ⟨year, month, day, none, padded⟩
  | _ => (clock? (← separated? rest)).map fun clock => ⟨year, month, day, some clock, padded⟩

/-- Whether a text that looks like this date is taken for a date without being marked as one. -/
def isEvident (t : Timestamp) : Bool := t.clock.isSome || t.padded

def isLeap (year : Nat) : Bool := year % 4 == 0 && (year % 100 != 0 || year % 400 == 0)

def daysIn (year month : Nat) : Nat :=
  if month = 2 then (if isLeap year then 29 else 28)
  else if month = 4 ∨ month = 6 ∨ month = 9 ∨ month = 11 then 30
  else 31

/-- Looks for the first thing that keeps a date from existing; the zone comes before all else. -/
def check (t : Timestamp) : Except CalendarFault Unit := do
  let offset := (t.clock.bind (·.offset)).getD 0
  if 86400 ≤ offset.natAbs then throw (.offset offset)
  if t.year = 0 then throw (.year t.year)
  if t.month = 0 ∨ 12 < t.month then throw .month
  if t.day = 0 ∨ daysIn t.year t.month < t.day then throw .day
  if let some clock := t.clock then
    if 23 < clock.hour then throw .hour
    if 59 < clock.minute then throw .minute
    if 59 < clock.second then throw .second

end Timestamp

end DrawingCode.Markup
