namespace FullText

structure Binary64 where
  bits : UInt64
deriving DecidableEq

namespace Binary64

def signBit : Nat := 0x8000000000000000

/-- The number of magnitudes from one power of two to the next. -/
def binade : Nat := 0x10000000000000

def unitsInOne : Nat := Nat.pow 2 1074

def infinityRank : Nat := 2047 * binade

def negative (x : Binary64) : Bool := signBit ≤ x.bits.toNat

/-- The position of the magnitude in the increasing order of all magnitudes. -/
def rank (x : Binary64) : Nat := x.bits.toNat % signBit

def ofRank (negative : Bool) (rank : Nat) : Binary64 :=
  ⟨UInt64.ofNat (if negative then signBit + rank else rank)⟩

def isNaN (x : Binary64) : Bool := infinityRank < x.rank

def isInfinite (x : Binary64) : Bool := x.rank = infinityRank

def isFinite (x : Binary64) : Bool := x.rank < infinityRank

def nan : Binary64 := ofRank false (infinityRank + binade / 2)

def infinity (negative : Bool) : Binary64 := ofRank negative infinityRank

/-- The number of units of 2^-1074 in the magnitude of the given rank. -/
def units (rank : Nat) : Nat :=
  if rank < binade then rank else (binade + rank % binade) * Nat.pow 2 (rank / binade - 1)

/-- The signed number of units. An infinity counts as the magnitude after the last finite one. -/
def scaled (x : Binary64) : Int :=
  if x.negative then -(units x.rank : Int) else units x.rank

/-- The order of the values: the two zeros are equal and a NaN is comparable to nothing. -/
protected def le (x y : Binary64) : Bool := !x.isNaN && !y.isNaN && x.scaled ≤ y.scaled

protected def lt (x y : Binary64) : Bool := !x.isNaN && !y.isNaN && x.scaled < y.scaled

/-- Equality of the values, which holds of the two zeros and of no NaN. -/
def sameValue (x y : Binary64) : Bool := !x.isNaN && !y.isNaN && x.scaled = y.scaled

def isIntegral (x : Binary64) : Bool := x.isFinite && units x.rank % unitsInOne = 0

/-- The whole number nearest to `num / den`, an exact half going to the even neighbour. -/
def nearestEven (num den : Nat) : Nat :=
  let q := num / den
  let r := num % den
  if 2 * r < den then q else if den < 2 * r then q + 1 else q + q % 2

/-- The rank of the magnitude nearest to `num / den`, an exact half going to the even rank.
A carry out of the significand arrives at the next power of two by itself. -/
def nearestRank (num den : Nat) : Nat :=
  let n := num * unitsInOne
  let shift := (n / den).log2 - 52
  min infinityRank (shift * binade + nearestEven n (den * Nat.pow 2 shift))

def ofInt (n : Int) : Binary64 := ofRank (n < 0) (nearestRank n.natAbs 1)

def zero : Binary64 := ofRank false 0

def one : Binary64 := ofRank false (1023 * binade)

end Binary64

end FullText
