/-!
# Double-precision numbers

A number of double precision other than a NaN is a sign and a rank: its place among the
non-negative numbers of the format in ascending order, which is also its word of 63 bits.  Rank 0
is zero, the last rank is infinity, and the finite ranks count the values below them.  The order
of signed ranks is the numerical order, with both zeros equal.

Every finite value is a natural number of *units* of `2 ^ -1074`.  A quotient of natural numbers
is rounded to the nearest value, a tie to the even rank.
-/

namespace SheetAudit

def twoPow (exponent : Nat) : Nat := Nat.pow 2 exponent

def tenPow (exponent : Nat) : Nat := Nat.pow 10 exponent

/-- The rank of infinity. -/
def topRank : Nat := 2047 * twoPow 52

/-- One is this many units. -/
def unitsPerOne : Nat := twoPow 1074

/-- A double-precision number other than a NaN. -/
structure Number where
  negative : Bool
  rank : Nat
  rank_le : rank ≤ topRank
  deriving Repr, DecidableEq

inductive Double where
  | nan
  | number (value : Number)
  deriving Repr, DecidableEq

/-- The value of a rank in units; at the top rank, the value at which rounding overflows. -/
def unitsOfRank (rank : Nat) : Nat :=
  if rank < twoPow 52 then rank
  else (twoPow 52 + rank % twoPow 52) * twoPow (rank / twoPow 52 - 1)

/-- A quotient rounded to the nearest whole number, a half to the even neighbour. -/
def roundHalfEven (num den : Nat) : Nat :=
  let floor := num / den
  let twice := 2 * (num % den)
  if twice < den then floor
  else if den < twice then floor + 1
  else if floor % 2 == 0 then floor else floor + 1

/-- The rank nearest to a quotient of natural numbers, before any limit. -/
def nearestRank (num den : Nat) : Nat :=
  let scaled := num * unitsPerOne
  let shift := Nat.log2 (scaled / den) - 52
  shift * twoPow 52 + roundHalfEven scaled (den * twoPow shift)

namespace Number

/-- The number with a sign and a rank, infinity if the rank is beyond the last. -/
def ofRank (negative : Bool) (rank : Nat) : Number :=
  ⟨negative, min rank topRank, Nat.min_le_right ..⟩

def zero : Number := ofRank false 0

def infinity (negative : Bool) : Number := ofRank negative topRank

/-- The number nearest to a signed quotient of natural numbers. -/
def ofRatio (negative : Bool) (num den : Nat) : Number :=
  ofRank negative (nearestRank num den)

def ofInt (n : Int) : Number :=
  ofRatio (n < 0) n.natAbs 1

/-- The number nearest to digits read as a whole number, times a power of ten.  Powers far outside
the range of the format are settled by the count of digits alone. -/
def ofDecimal (negative : Bool) (digits : Nat) (exponent : Int) : Number :=
  if digits == 0 then ofRank negative 0
  else
    let magnitude := ((Nat.toDigits 10 digits).length : Int) + exponent
    if magnitude > 310 then infinity negative
    else if magnitude < -330 then ofRank negative 0
    else match exponent with
      | .ofNat e => ofRatio negative (digits * tenPow e) 1
      | .negSucc e => ofRatio negative digits (tenPow (e + 1))

def isInfinite (x : Number) : Bool := x.rank == topRank

def units (x : Number) : Nat := unitsOfRank x.rank

/-- The place of a number in the numerical order; both zeros have the place 0. -/
def key (x : Number) : Int :=
  if x.negative then -(x.rank : Int) else x.rank

def eq (x y : Number) : Bool := x.key == y.key

def lt (x y : Number) : Bool := x.key < y.key

def le (x y : Number) : Bool := x.key ≤ y.key

def isZero (x : Number) : Bool := x.rank == 0

def toInt? (x : Number) : Option Int :=
  if x.isInfinite || x.units % unitsPerOne != 0 then none
  else
    let n : Int := (x.units / unitsPerOne : Nat)
    some (if x.negative then -n else n)

def mul (x y : Number) : Number :=
  ofRatio (x.negative != y.negative) (x.units * y.units) (unitsPerOne * unitsPerOne)

/-- The whole number nearest to a finite number, a half to the even neighbour. -/
def nearestInt (x : Number) : Int :=
  let n : Int := roundHalfEven x.units unitsPerOne
  if x.negative then -n else n

end Number

namespace Double

/-- Whether a value is greater than a number; a NaN is not. -/
def exceeds (value : Double) (x : Number) : Bool :=
  match value with
  | .nan => false
  | .number y => x.lt y

/-- Whether a value is less than a number; a NaN is not. -/
def fallsShortOf (value : Double) (x : Number) : Bool :=
  match value with
  | .nan => false
  | .number y => y.lt x

def toNumber? : Double → Option Number
  | .nan => none
  | .number x => some x

end Double

end SheetAudit
