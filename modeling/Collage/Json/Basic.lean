import Collage.Json.Number
import Collage.Sorted

/-! # JSON values

The values templates are rendered with.  The fields of an object are kept in the order of their
names.
-/

namespace Collage

inductive Json where
  | null
  | bool (b : Bool)
  | number (n : Number)
  | string (s : String)
  | array (items : List Json)
  | object (fields : List (String × Json))

namespace Json

mutual

/-- Whether two values are the same; integers and doubles never are. -/
protected def beq : Json → Json → Bool
  | null, null => true
  | bool a, bool b => a == b
  | number a, number b => a == b
  | string a, string b => a == b
  | array a, array b => beqItems a b
  | object a, object b => beqFields a b
  | _, _ => false

def beqItems : List Json → List Json → Bool
  | [], [] => true
  | a :: as, b :: bs => Json.beq a b && beqItems as bs
  | _, _ => false

def beqFields : List (String × Json) → List (String × Json) → Bool
  | [], [] => true
  | (k, a) :: as, (l, b) :: bs => k == l && Json.beq a b && beqFields as bs
  | _, _ => false

end

instance : BEq Json := ⟨Json.beq⟩

def ofNat (n : Nat) : Json := number (.ofNat n)

/-- The object of some fields; of two fields of one name the later one counts. -/
def ofFields (fields : List (String × Json)) : Json :=
  object (fields.foldl (fun sorted (name, value) => Sorted.insert name value sorted) [])

/-- What kind of value it is, in words. -/
def kind : Json → String
  | null => "null"
  | bool _ => "a boolean"
  | number _ => "a number"
  | string _ => "a string"
  | array _ => "an array"
  | object _ => "an object"

def string? : Json → Option String
  | string s => some s
  | _ => none

/-- Whether a value counts as true in a condition: not null, false, zero or empty. -/
def isTruthy : Json → Bool
  | null => false
  | bool b => b
  | number n => n.toFloat != 0.0 && !n.toFloat.isNaN
  | string s => s ≠ ""
  | array items => !items.isEmpty
  | object fields => !fields.isEmpty

end Json

end Collage
