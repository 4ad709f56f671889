/-! # Shortest decimals of a binary fraction

A floating-point number `m · 2^q` stands for every real number that rounds to it.  `shortest` gives
the decimal with the fewest digits among those, and of several with as few digits the nearest.

All of it is exact arithmetic on natural numbers.  Lengths are measured in quarters of the unit
`2^q`, so that half the way to either neighbour is a whole number of them.
-/

namespace Collage.Decimal

/-- A finite binary fraction `m · 2^q` with `0 < m < 2^53`, as 64-bit floating point stores it. -/
structure Binary where
  m : Nat
  q : Int
  deriving DecidableEq, Repr

/-- A decimal `digits · 10^exponent`. -/
structure Digits where
  digits : Nat
  exponent : Int
  deriving DecidableEq, Repr

def digitCount (n : Nat) : Nat := (Nat.toDigits 10 n).length

/-- The least significand of a number whose significand has all its bits. -/
def fullSignificand : Nat := 4503599627370496

namespace Binary

/-- The sign, exponent and fraction bits of a finite number that is not zero. -/
def ofBits (bits : UInt64) : Binary :=
  let fraction := (bits &&& 0xFFFFFFFFFFFFF).toNat
  let exponent := ((bits >>> 52) &&& 0x7FF).toNat
  if exponent = 0 then ⟨fraction, -1074⟩ else ⟨fraction + fullSignificand, (exponent : Int) - 1075⟩

/-- The scale of the quarters: `scale · v` quarters of the unit make up `v` units of the decimal
grid `10^k`, as a fraction of two natural numbers. -/
def grid (b : Binary) (k : Int) : Nat × Nat :=
  let e := b.q - 2
  (Nat.pow 2 e.toNat * Nat.pow 10 (-k).toNat, Nat.pow 2 (-e).toNat * Nat.pow 10 k.toNat)

/-- Half the way down to the number below, in quarters: the numbers below a power of two lie
closer together. -/
def halfBelow (b : Binary) : Nat := if b.m = fullSignificand ∧ b.q > -1074 then 1 else 2

/-- Whether `n` units of the grid `10^k` round to the number.  The ends of the interval do when `m`
is even. -/
def admits (b : Binary) (k : Int) (n : Nat) : Bool :=
  let (num, den) := b.grid k
  let low := (4 * b.m - b.halfBelow) * num
  let high := (4 * b.m + 2) * num
  let here := n * den
  if b.m % 2 = 0 then low ≤ here && here ≤ high else low < here && here < high

/-- The distance between the number and `n` units of the grid `10^k`, up to a common factor. -/
def distance (b : Binary) (k : Int) (n : Nat) : Nat :=
  let (num, den) := b.grid k
  ((4 * b.m * num : Int) - n * den).natAbs

/-- The number in whole units of the grid `10^k`, rounded down. -/
def floorAt (b : Binary) (k : Int) : Nat :=
  let (num, den) := b.grid k
  4 * b.m * num / den

/-- The exponent `e` with `10^e ≤ m · 2^q < 10^(e+1)`. -/
def magnitude (b : Binary) : Int :=
  let whole := b.floorAt 0
  if 0 < whole then digitCount whole - 1
  else
    let tiny := b.floorAt (-400)
    (digitCount tiny : Int) - 401

/-- The number's two neighbours on the grid `10^k` that round to it, the nearer one first choice
and the even one on a tie. -/
def hit? (b : Binary) (k : Int) : Option Nat :=
  let below := b.floorAt k
  let above := below + 1
  match b.admits k below, b.admits k above with
  | true, true =>
    let down := b.distance k below
    let up := b.distance k above
    if down < up then some below
    else if up < down then some above
    else if below % 2 = 0 then some below else some above
  | true, false => some below
  | false, true => some above
  | false, false => none

/-- Tries the grids from the coarsest on, `fuel` of them. -/
def search (b : Binary) : Nat → Int → Digits
  | 0, k => ⟨b.floorAt k, k⟩
  | fuel + 1, k =>
    match b.hit? k with
    | some n => ⟨n, k⟩
    | none => search b fuel (k - 1)

end Binary

def Digits.stripZeros (d : Digits) : Digits :=
  let text := (Nat.toDigits 10 d.digits).reverse
  let zeros := (text.takeWhile (· = '0')).length
  if d.digits = 0 then d else ⟨d.digits / Nat.pow 10 zeros, d.exponent + zeros⟩

/-- The decimal with the fewest digits that rounds to a number: 17 digits are always enough. -/
def shortest (b : Binary) : Digits := (b.search 17 b.magnitude).stripZeros

end Collage.Decimal
