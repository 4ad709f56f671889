import Collage.Template.Fault
import Collage.Decimal.Remainder

/-! # Calculations

Two integers of 64 bits with a sign are added, subtracted and multiplied exactly, and so are two
without; all other numbers are doubles.  A division is one of doubles, and its outcome an integer
when it is whole.  A calculation without an outcome that is a number gives none.
-/

namespace Collage.Template

/-- A double as a number, if it is finite. -/
def finite? (x : Float) : Option Number := if x.isFinite then some (.double x) else none

/-- The quotient of two doubles: an integer of 64 bits, the nearest there is, where it is whole. -/
def quotient? (x y : Float) : Option Number :=
  let z := x / y
  if z.isFinite && z.round == z then some (.ofInt z.toInt64.toInt) else finite? z

/-- An outcome that has to fit the integers of 64 bits, with or without a sign. -/
def bounded (op : MathOp) (left right outcome : Int) (signed : Bool) :
    Except Fault (Option Number) :=
  match Whole.ofInt? outcome with
  | some w =>
    if (if signed then w.isSigned else w.isUnsigned) then .ok (some (.int w))
    else .error (.outOfBounds left op right signed)
  | none => .error (.outOfBounds left op right signed)

/-- The outcome of an operation on integers, both with or both without a sign; `shown` tells the
operands apart in diagnostics. -/
def ofIntegers (op : MathOp) (left right : Int) (signed : Bool) (shown : Expr × Expr) :
    Except Fault (Option Number) :=
  match op with
  | .add => bounded op left right (left + right) signed
  | .sub => bounded op left right (left - right) signed
  | .mul => bounded op left right (left * right) signed
  | .modulo =>
    if right = 0 then .error (.moduloZero shown.1 shown.2)
    else .ok (some (.ofInt (left.tmod right)))
  | .div => .ok (quotient? (Float.ofInt left) (Float.ofInt right))

def ofDoubles (op : MathOp) (left right : Float) : Option Number :=
  match op with
  | .add => finite? (left + right)
  | .sub => finite? (left - right)
  | .mul => finite? (left * right)
  | .modulo => finite? (Decimal.remainder left right)
  | .div => quotient? left right

def calculate (op : MathOp) (left right : Number) (shown : Expr × Expr) :
    Except Fault (Option Number) :=
  match left.signed?, right.signed?, left.unsigned?, right.unsigned? with
  | some a, some b, _, _ => ofIntegers op a b true shown
  | _, _, some a, some b => ofIntegers op a b false shown
  | _, _, _, _ => .ok (ofDoubles op left.toFloat right.toFloat)

end Collage.Template
