/-! # Double-precision numbers

A double is a sign and a magnitude. The magnitudes are ranked from zero upwards: zero, the subnormal
numbers, the normal numbers, infinity, and last the codes that stand for no number. The rank is the
stored pattern without its sign bit, and the magnitude next to rank `r` has rank `r + 1`. Every
finite magnitude is a whole number of units of `2 ^ (-1074)`, so comparisons are exact comparisons
of natural numbers.
-/

namespace DrawingCode

-- Powers of natural numbers are those of the core library, whatever other instances are in scope.
attribute [local instance (2000)] instPowNat

/-- A double-precision number: its sign and the rank of its magnitude. -/
structure Double where
  negative : Bool
  rank : Nat
  rank_lt : rank < 2 ^ (63 : Nat)
deriving DecidableEq

namespace Double

/-- The rank of infinity; lower ranks are finite and higher ranks are not numbers. -/
def infinityRank : Nat := 2047 * 2 ^ (52 : Nat)

/-- How many units make one. -/
def unitsPerOne : Nat := 2 ^ (1074 : Nat)

/-- The magnitude of a rank in units. Up to `2 ^ 53` a rank counts units; from there on the upper
bits of the rank tell how often the significand is doubled. -/
def units (rank : Nat) : Nat :=
  if rank < 2 ^ (53 : Nat) then rank
  else (2 ^ (52 : Nat) + rank % 2 ^ (52 : Nat)) * 2 ^ (rank / 2 ^ (52 : Nat) - 1)

/-- The double with a given pattern of 64 bits, read as a natural number. -/
def ofBits (bits : Nat) : Double :=
  ⟨bits / 2 ^ (63 : Nat) % 2 == 1, bits % 2 ^ (63 : Nat), Nat.mod_lt _ (by decide)⟩

/-- The double of a sign and a rank, infinity standing in for every rank above it. -/
def ofRank (negative : Bool) (rank : Nat) : Double :=
  ⟨negative, min rank infinityRank, Nat.lt_of_le_of_lt (Nat.min_le_right ..) (by decide)⟩

def zero (negative : Bool) : Double := ofRank negative 0

def one : Double := ofRank false (1023 * 2 ^ (52 : Nat))

def infinite (negative : Bool) : Double := ofRank negative infinityRank

/-- The pattern that a computation gives for a result that is no number. -/
def nan : Double := ⟨false, infinityRank + 2 ^ (51 : Nat), by decide⟩

/-- Whether the pattern stands for no number. -/
def isNaN (d : Double) : Bool := infinityRank < d.rank

def isFinite (d : Double) : Bool := d.rank < infinityRank

/-- The value of a finite double in units. -/
def signedUnits (d : Double) : Int :=
  if d.negative then -(units d.rank : Int) else units d.rank

/-- The same double with every pattern that is no number replaced by one of them. -/
def canonical (d : Double) : Double := if d.isNaN then nan else d

end Double

end DrawingCode
