import DrawingCode.Value.Basic

/-! # Equality of values

Integers, doubles and truth values are compared by the number that they stand for, exactly and at
any magnitude. What is no number differs from everything, itself included. Lists are equal item by
item, and dictionaries are equal if they have the same keys with equal values, in whatever order.
-/

namespace DrawingCode

/-- The number that a value stands for: a whole number of units, an infinity, or no number. -/
inductive Amount where
  | units (count : Int)
  | infinite (negative : Bool)
  | nan
deriving DecidableEq

/-- Numbers are equal if they are the same number. -/
def Amount.equal (a b : Amount) : Bool := a = b && a != .nan

/-- The number that a double stands for. -/
def Double.amount (d : Double) : Amount :=
  if d.isNaN then .nan else if d.isFinite then .units d.signedUnits else .infinite d.negative

namespace Value

/-- The number that a value stands for, if it is a number. -/
def amount? : Value → Option Amount
  | bool b => some (.units (if b then Double.unitsPerOne else 0))
  | int i => some (.units (i * Double.unitsPerOne))
  | double d => some d.amount
  | null | text _ | list _ | dict _ => none

mutual

def equal : Value → Value → Bool
  | null, b => (b matches null)
  | text s, b => match b with
    | text t => s == t
    | _ => false
  | list items, b => match b with
    | list others => equalItems items others
    | _ => false
  | dict entries, b => match b with
    | dict others => entries.length == others.length && equalEntries entries others
    | _ => false
  | bool p, b => b.amount?.any ((Amount.units (if p then Double.unitsPerOne else 0)).equal ·)
  | int i, b => b.amount?.any ((Amount.units (i * Double.unitsPerOne)).equal ·)
  | double d, b => b.amount?.any (d.amount.equal ·)

def equalItems : List Value → List Value → Bool
  | [], others => others.isEmpty
  | v :: rest, others => match others with
    | [] => false
    | w :: more => v.equal w && equalItems rest more

/-- Whether every entry has a partner of the same key and an equal value. -/
def equalEntries : List (String × Value) → List (String × Value) → Bool
  | [], _ => true
  | (k, v) :: rest, others => (others.lookup k).any (v.equal ·) && equalEntries rest others

end

end Value

end DrawingCode
