import Collage.Decimal.Shortest

/-! # The text of a number

How a number with a decimal point is written: plainly when its leading digit stands neither too far
before nor too far behind the point, otherwise with an exponent.
-/

namespace Collage.Decimal

/-- The decisions of a way to write decimals. -/
structure Style where
  /-- The least power of ten of the leading digit that is written plainly. -/
  leastPlain : Int
  greatestPlain : Int
  /-- What stands between the digits and a positive exponent. -/
  positiveExponent : String
  negativeExponent : String
  /-- What stands behind a whole number that is written plainly. -/
  wholeMark : String

/-- Numbers are written plainly from `0.00001` up to 16 digits before the point, and always with a
fraction; otherwise with a signed exponent. -/
def Style.standard : Style := ⟨-5, 15, "e+", "e-", ".0"⟩

/-- Every number is written plainly, and a whole one without a point: no double has its leading
digit more than 400 places away from the point. -/
def Style.expanded : Style := ⟨-400, 400, "e", "e-", ""⟩

/-- Numbers are written plainly from `0.0001` up to 16 digits before the point, and always with a
fraction; otherwise with an exponent that only has a sign where it is negative. -/
def Style.diagnostic : Style := ⟨-4, 15, "e", "e-", ".0"⟩

/-- Digits with a point after the first `before` of them; behind a whole number stands `mark`. -/
def placePoint (mark digits : String) (before : Int) : String :=
  if before ≤ 0 then
    "0." ++ "".pushn '0' (-before).toNat ++ digits
  else
    let n := before.toNat
    let cs := digits.toList
    let whole := String.ofList (cs.take n ++ List.replicate (n - cs.length) '0')
    let fraction := cs.drop n
    if fraction = [] then whole ++ mark else whole ++ "." ++ String.ofList fraction

/-- Digits with a point after the first of them, if there are more. -/
def pointAfterFirst (digits : String) : String :=
  match digits.toList with
  | first :: second :: rest => String.ofList (first :: '.' :: second :: rest)
  | _ => digits

/-- A decimal that is not zero, written in a style. -/
def Digits.text (style : Style) (d : Digits) : String :=
  let digits := toString d.digits
  let leading := d.exponent + digits.length - 1
  if style.leastPlain ≤ leading ∧ leading ≤ style.greatestPlain then
    placePoint style.wholeMark digits (leading + 1)
  else if leading < 0 then
    pointAfterFirst digits ++ style.negativeExponent ++ toString leading.natAbs
  else
    pointAfterFirst digits ++ style.positiveExponent ++ toString leading.natAbs

/-- The shortest text of a floating-point number that reads back as it. -/
def floatText (style : Style) (x : Float) : String :=
  if x.isNaN then "NaN"
  else
    let sign := if x.toBits >>> 63 = 1 then "-" else ""
    if x.isInf then sign ++ "inf"
    else if x == 0 then sign ++ "0" ++ style.wholeMark
    else sign ++ (shortest (Binary.ofBits x.toBits)).text style

end Collage.Decimal
