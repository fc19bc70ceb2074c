import SheetAudit.Number.Double

/-!
# Shortest decimal texts

A finite number is written with the fewest significant digits that read back as the same number;
among several such texts the nearest is taken.  On the grid of `k` digits only the two neighbours
of the value can read back if any point of the grid does, so the grids of 1 to 17 digits are
tried in turn.
-/

namespace SheetAudit

/-- Decimal digits `d` with a point place `p`: the value `0.d` times ten to the `p`. -/
structure Significant where
  digits : List Char
  point : Int
  deriving Repr, DecidableEq

/-- A scaled value times a power of ten, as a quotient of natural numbers. -/
def scaleByTen (num den : Nat) (power : Int) : Nat × Nat :=
  match power with
  | .ofNat e => (num * tenPow e, den)
  | .negSucc e => (num, den * tenPow (e + 1))

/-- The power of ten just above a positive quotient: the quotient is at least ten to one less
than it. -/
def pointPlace (num den : Nat) : Int :=
  let bits : Int := (Nat.log2 num : Int) - Nat.log2 den
  let guess := Int.fdiv (bits * 30103) 100000 + 1
  let below := scaleByTen num den (-(guess - 1))
  let above := scaleByTen num den (-guess)
  if below.1 < below.2 then guess - 1
  else if above.2 ≤ above.1 then guess + 1
  else guess

/-- Whether a grid point, as a quotient, reads back as a rank: it lies between the midpoints to
the neighbouring ranks, the midpoints themselves counting for even ranks. -/
def readsBack (rank num den : Nat) : Bool :=
  let twice := 2 * num * unitsPerOne
  let low := (unitsOfRank (rank - 1) + unitsOfRank rank) * den
  let high := (unitsOfRank rank + unitsOfRank (rank + 1)) * den
  if rank % 2 == 0 then low ≤ twice && twice ≤ high else low < twice && twice < high

/-- The point of the grid with `count` digits that reads back as a rank, the nearer of two, and of
two equally near the even one. -/
def gridPoint? (rank : Nat) (point : Int) (count : Nat) : Option Nat :=
  let scaled := scaleByTen (unitsOfRank rank) unitsPerOne (count - point)
  let floor := scaled.1 / scaled.2
  let fits := fun digits =>
    let value := scaleByTen digits 1 (point - count)
    readsBack rank value.1 value.2
  let nearest := roundHalfEven scaled.1 scaled.2
  if fits nearest then some nearest
  else if fits floor then some floor
  else if fits (floor + 1) then some (floor + 1)
  else none

def dropFinalZeros (digits : List Char) : List Char :=
  (digits.reverse.dropWhile (· == '0')).reverse

/-- The first grid, of at least `count` digits, with a point that reads back as a rank. -/
def shortestFrom (rank : Nat) (point : Int) (count : Nat) : Nat → Significant
  | 0 => ⟨['0'], 1⟩
  | tries + 1 =>
    match gridPoint? rank point count with
    | some value =>
      let digits := Nat.toDigits 10 value
      ⟨dropFinalZeros digits, point + digits.length - count⟩
    | none => shortestFrom rank point (count + 1) tries

def shortest (rank : Nat) : Significant :=
  shortestFrom rank (pointPlace (unitsOfRank rank) unitsPerOne) 1 17

/-- Where digits are written out and where with an exponent: positional from `0.0001` up to, but
not including, `1e16`. -/
def isPositional (s : Significant) : Bool :=
  -4 < s.point && s.point ≤ 16

/-- Digits written out with a point and at least one digit on both sides of it. -/
def positional (s : Significant) : List Char :=
  match s.point with
  | .negSucc e => '0' :: '.' :: List.replicate (e + 1) '0' ++ s.digits
  | .ofNat 0 => '0' :: '.' :: s.digits
  | .ofNat place =>
    if s.digits.length ≤ place then
      s.digits ++ List.replicate (place - s.digits.length) '0' ++ ['.', '0']
    else s.digits.take place ++ '.' :: s.digits.drop place

def scientific (s : Significant) : List Char :=
  let exponent := s.point - 1
  let places := Nat.toDigits 10 exponent.natAbs
  let sign := if exponent < 0 then '-' else '+'
  let fraction := s.digits.drop 1
  s.digits.take 1 ++ (if fraction.isEmpty then [] else '.' :: fraction) ++
    'e' :: sign :: List.replicate (2 - places.length) '0' ++ places

namespace Number

def text (x : Number) : String :=
  let magnitude :=
    if x.isInfinite then "inf".toList
    else if x.isZero then "0.0".toList
    else
      let s := shortest x.rank
      if isPositional s then positional s else scientific s
  String.ofList (if x.negative then '-' :: magnitude else magnitude)

end Number

def Double.text : Double → String
  | .nan => "nan"
  | .number x => x.text

end SheetAudit
