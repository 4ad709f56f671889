import Collage.Decimal.Shortest

/-! # Remainder of a division

What is left of a floating-point number after a whole number of times another one: exact, with the
sign of the first number.
-/

namespace Collage.Decimal

/-- A natural number and how often two divides it, with that power of two taken out; `fuel` bounds
the halvings. -/
def oddPart : Nat → Nat → Nat × Nat
  | 0, n => (n, 0)
  | fuel + 1, n =>
    if n % 2 = 0 ∧ n ≠ 0 then
      let (odd, twos) := oddPart fuel (n / 2)
      (odd, twos + 1)
    else (n, 0)

/-- What is left of `x` after a whole number of times `y`; not a number where that has no
meaning. -/
def remainder (x y : Float) : Float :=
  if !x.isFinite || y.isNaN || y == 0 then 0.0 / 0.0
  else if x == 0 || !y.isFinite then x
  else
    let a := Binary.ofBits x.toBits
    let b := Binary.ofBits y.toBits
    let q := min a.q b.q
    let left := (a.m * Nat.pow 2 (a.q - q).toNat) % (b.m * Nat.pow 2 (b.q - q).toNat)
    let (odd, twos) := oddPart 2200 left
    let size := (Float.ofNat odd).scaleB (q + twos)
    if x < 0 then -size else size

end Collage.Decimal
