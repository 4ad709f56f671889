import Collage.Library.Basic

/-! # The stock filters

Helpers for paths, lists, numbers and data that every session offers unless it is given another
library.

* `hasPrefix`, `hasSuffix`: how a text begins and ends
* `prefixOf`, `suffixOf`: its first and last characters
* `keys`, `sortDescending`: the keys of an object or places of a list, and a list in falling order
* `sub`: a difference
* `decode`, `encode`: between values and their JSON text
* `isAmong`: whether a value is one of several
-/

namespace Collage.Library

def textOf (filter : String) : Json → Except Refusal String
  | .string s => .ok s
  | _ => .error (.wants filter "a string value")

/-- An argument that has to be a text. -/
def textArgument (filter name : String) (args : Arguments) : Except Refusal String :=
  match args.lookup name with
  | some (.string s) => .ok s
  | _ => .error (.needs filter "a string" name)

/-- An argument that has to be an integer of 64 bits with a sign, if it is there. -/
def intArgument? (filter name : String) (args : Arguments) : Except Refusal (Option Int) :=
  match args.lookup name with
  | none => .ok none
  | some (.number n) =>
    match n.signed? with
    | some i => .ok (some i)
    | none => .error (.needs filter "an integer" name)
  | some _ => .error (.needs filter "an integer" name)

/-- An argument that has to be there and to be an integer of 64 bits with a sign. -/
def intArgument (filter name : String) (args : Arguments) : Except Refusal Int := do
  match ← intArgument? filter name args with
  | some i => .ok i
  | none => .error (.needs filter "an integer" name)

def hasPrefix (value : Json) (args : Arguments) : Except Refusal Json := do
  let text ← textOf "has_prefix" value
  let part ← textArgument "has_prefix" "prefix" args
  .ok (.bool (part.toList.isPrefixOf text.toList))

def hasSuffix (value : Json) (args : Arguments) : Except Refusal Json := do
  let text ← textOf "has_suffix" value
  let part ← textArgument "has_suffix" "suffix" args
  .ok (.bool (part.toList.isSuffixOf text.toList))

/-- The keys of an object, or the places of a list. -/
def keys (value : Json) (_ : Arguments) : Except Refusal Json :=
  match value with
  | .object fields => .ok (.array ((Sorted.keys fields).map .string))
  | .array items => .ok (.array ((List.range items.length).map .ofNat))
  | _ => .error (.wants "keys" "an object or an array")

/-- Whether a value is greater than another one: numbers by their values as doubles, texts by their
characters.  Values of other or of different kinds are never greater. -/
def isGreater : Json → Json → Bool
  | .number a, .number b => b.toFloat < a.toFloat
  | .string a, .string b => decide (b < a)
  | _, _ => false

/-- What values can be compared with. -/
inductive Kind where
  | number
  | text
  | other
  deriving DecidableEq

/-- Numbers can be compared with numbers, unless one is NaN, and texts with texts. -/
def kindOf : Json → Kind
  | .number n => if n.toFloat.isNaN then .other else .number
  | .string _ => .text
  | _ => .other

/-- Whether comparison is an order on the items of a list: they are of one kind, or none of them is
greater than another. -/
def isOrdered : List Json → Bool
  | [] => true
  | first :: rest =>
    rest.all (fun item => kindOf item = kindOf first) ||
      !(first :: rest).any fun a => (first :: rest).any (isGreater a)

/-- A value put into a list that is written back to front, past the values it is greater than. -/
def settle (value : Json) : List Json → List Json
  | [] => [value]
  | last :: before =>
    if isGreater value last then last :: settle value before else value :: last :: before

/-- The items of a list, the greatest first; items of which neither is greater keep their order. -/
def descending (items : List Json) : List Json :=
  (items.foldl (fun sorted item => settle item sorted) []).reverse

theorem perm_settle (value : Json) (before : List Json) :
    (settle value before).Perm (value :: before) := by
  induction before with
  | nil => rfl
  | cons last before ih =>
    by_cases passes : isGreater value last = true
    · rw [settle, if_pos passes]
      exact (ih.cons last).trans (List.Perm.swap value last before)
    · rw [settle, if_neg passes]

theorem perm_foldl_settle (items sorted : List Json) :
    (items.foldl (fun sorted item => settle item sorted) sorted).Perm (sorted ++ items) := by
  induction items generalizing sorted with
  | nil => simp
  | cons item items ih =>
    have placed := (perm_settle item sorted).append_right items
    exact (ih (settle item sorted)).trans (placed.trans List.perm_middle.symm)

theorem perm_descending (items : List Json) : (descending items).Perm items :=
  (List.reverse_perm _).trans (perm_foldl_settle items [])

/-- What long lists come to on which comparison is no order: some order of their items, if sorting
does not give up. -/
structure Disorder where
  leave : List Json → Except Refusal (List Json)
  perm_of_leave : ∀ {items sorted}, leave items = .ok sorted → sorted.Perm items

/-- Sorting as if comparison was an order. -/
def Disorder.settled : Disorder where
  leave items := .ok (descending items)
  perm_of_leave := by
    rintro items _ ⟨⟩
    exact perm_descending items

/-- The greatest number of items that are sorted one by one, whatever comparison says. -/
def sortedOneByOne : Nat := 20

/-- The items of a list in falling order.  Where comparison is an order, each way to sort that keeps
equal items in their order gives the same list. -/
def falling (d : Disorder) (items : List Json) : Except Refusal (List Json) :=
  if items.length ≤ sortedOneByOne || isOrdered items then .ok (descending items)
  else d.leave items

def sortDescending (d : Disorder) (value : Json) (_ : Arguments) : Except Refusal Json :=
  match value with
  | .array items => (falling d items).map .array
  | _ => .error (.wants "sort_desc" "an array")

/-- A number less the argument `n`, which is 1 unless it is given. -/
def sub (value : Json) (args : Arguments) : Except Refusal Json := do
  let n := (← intArgument? "sub" "n" args).getD 1
  match value with
  | .number v =>
    match v.signed? with
    | some i =>
      match Whole.ofInt? (i - n) with
      | some w => if w.isSigned then .ok (.number (.int w)) else .error (.overflow "sub")
      | none => .error (.overflow "sub")
    | none => .ok (.number (.double (v.toFloat - Float.ofInt n)))
  | _ => .error (.wants "sub" "a number")

def decode (value : Json) (_ : Arguments) : Except Refusal Json := do
  match Json.read (← textOf "json_decode" value) with
  | .ok v => .ok v
  | .error fault => .error (.undecodable "json_decode" fault)

/-- A value's JSON text, on lines of their own if the argument `indent` gives an indentation. -/
def encode (value : Json) (args : Arguments) : Except Refusal Json :=
  match args.lookup "indent" with
  | none => .ok (.string value.compact)
  | some (.string unit) => .ok (.string (value.print (.indented unit.toList)))
  | some _ => .error (.needs "to_json" "a string" "indent")

/-- The first characters of a text, `n` of them. -/
def prefixOf (value : Json) (args : Arguments) : Except Refusal Json := do
  let text ← textOf "prefix" value
  let n ← intArgument "prefix" "n" args
  .ok (.string (String.ofList (text.toList.take n.toNat)))

/-- The last characters of a text, `n` of them. -/
def suffixOf (value : Json) (args : Arguments) : Except Refusal Json := do
  let text ← textOf "suffix" value
  let n ← intArgument "suffix" "n" args
  .ok (.string (String.ofList (text.toList.drop (text.toList.length - n.toNat))))

/-- Whether a value is one of the argument `values`. -/
def isAmong (value : Json) (args : Arguments) : Except Refusal Json :=
  match args.lookup "values" with
  | some (.array values) => .ok (.bool (values.any (· == value)))
  | _ => .error (.needs "equals" "an array" "values")

def stock (d : Disorder) : Library :=
  [("has_prefix", hasPrefix), ("has_suffix", hasSuffix), ("keys", keys),
    ("sort_desc", sortDescending d), ("sub", sub), ("json_decode", decode), ("to_json", encode),
    ("prefix", prefixOf), ("suffix", suffixOf), ("equals", isAmong)].foldl
    (fun l (name, f) => l.addFilter name ⟨f, false⟩) empty

end Collage.Library
