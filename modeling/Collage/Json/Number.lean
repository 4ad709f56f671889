import Collage.Decimal.Text

/-! # Numbers

A number is an integer that fits 64 bits, signed or unsigned, or a double.  An integer and a double
are never the same number, whatever their values; `Number.toFloat` compares them as doubles.
-/

namespace Collage

/-- The least integer that 64 bits with a sign cannot hold. -/
def signedBound : Nat := 9223372036854775808

def unsignedBound : Nat := 18446744073709551616

/-- An integer that fits 64 bits, signed or unsigned. -/
structure Whole where
  value : Int
  le_value : -(signedBound : Int) ≤ value
  value_lt : value < unsignedBound

namespace Whole

instance : DecidableEq Whole := fun a b =>
  if h : a.value = b.value then
    isTrue (by cases a; cases b; cases h; rfl)
  else isFalse fun e => h (e ▸ rfl)

def ofInt? (i : Int) : Option Whole :=
  if h : -(signedBound : Int) ≤ i ∧ i < unsignedBound then some ⟨i, h.1, h.2⟩ else none

def isSigned (w : Whole) : Bool := w.value < signedBound

def isUnsigned (w : Whole) : Bool := 0 ≤ w.value

def toFloat (w : Whole) : Float :=
  if 0 ≤ w.value then (UInt64.ofNat w.value.toNat).toFloat
  else -(UInt64.ofNat (-w.value).toNat).toFloat

end Whole

inductive Number where
  | int (w : Whole)
  | double (x : Float)

namespace Number

/-- An integer; the nearest double where it does not fit. -/
def ofInt (i : Int) : Number :=
  match Whole.ofInt? i with
  | some w => int w
  | none => double (Float.ofInt i)

def ofNat (n : Nat) : Number := ofInt n

def toFloat : Number → Float
  | int w => w.toFloat
  | double x => x

/-- The integer, if it is one and fits 64 bits with a sign. -/
def signed? : Number → Option Int
  | int w => if w.isSigned then some w.value else none
  | double _ => none

def unsigned? : Number → Option Int
  | int w => if w.isUnsigned then some w.value else none
  | double _ => none

/-- Whether two numbers are the same: integers of one value or doubles that compare equal. -/
protected def beq : Number → Number → Bool
  | int a, int b => a == b
  | double x, double y => x == y
  | _, _ => false

instance : BEq Number := ⟨Number.beq⟩

def textIn (style : Decimal.Style) : Number → String
  | int w => toString w.value
  | double x => Decimal.floatText style x

def text (n : Number) : String := n.textIn .standard

end Number

end Collage
