import Collage.Json.Printer
import Collage.Json.Reader
import Collage.Text.Quoted

/-! # Filters and functions

What templates can call.  A filter takes a value and named arguments, a function takes named
arguments alone; either gives a value or refuses.  A `Library` holds the filters and functions of
one session by their names.  The outcome of a safe one is not escaped.
-/

namespace Collage

/-- Why a filter or function does not give a value. -/
inductive Refusal where
  /-- The value has to be something else. -/
  | wants (filter what : String)
  /-- An argument is missing or has to be something else. -/
  | needs (filter what argument : String)
  | overflow (filter : String)
  | undecodable (filter : String) (fault : Json.ReadError)
  /-- The value is not of the type named. -/
  | unsuitable (filter : String) (value : Json) (type : String)
  /-- An argument is not of the type named. -/
  | unsuitableArgument (filter argument : String) (value : Json) (type : String)
  | lacks (filter argument : String)
  | noLength
  /-- Any other reason. -/
  | because (reason : String)

def Refusal.text : Refusal → String
  | wants filter what => "`" ++ filter ++ "` filter expects " ++ what
  | needs filter what argument =>
    "`" ++ filter ++ "` filter requires " ++ what ++ " `" ++ argument ++ "` argument"
  | overflow filter => "`" ++ filter ++ "` filter overflowed"
  | undecodable filter fault => "`" ++ filter ++ "` filter could not parse input: " ++ fault.text
  | unsuitable filter value type =>
    "Filter `" ++ filter ++ "` was called on an incorrect value: got `" ++ value.compact ++
      "` but expected a " ++ type
  | unsuitableArgument filter argument value type =>
    "Filter `" ++ filter ++ "` received an incorrect type for arg `" ++ argument ++ "`: got `" ++
      value.compact ++ "` but expected a " ++ type
  | lacks filter argument => "Filter `" ++ filter ++ "` expected an arg called `" ++ argument ++ "`"
  | noLength => "Filter `length` was used on a value that isn't an array, an object, or a string."
  | because reason => reason

abbrev Arguments := List (String × Json)

structure Filter where
  apply : Json → Arguments → Except Refusal Json
  safe : Bool := false

structure Function where
  call : Arguments → Except Refusal Json
  safe : Bool := false

/-- Filters and functions, in the order of their names. -/
structure Library where
  filters : List (String × Filter)
  functions : List (String × Function)

namespace Library

def empty : Library := ⟨[], []⟩

def addFilter (l : Library) (name : String) (f : Filter) : Library :=
  { l with filters := Sorted.insert name f l.filters }

def addFunction (l : Library) (name : String) (f : Function) : Library :=
  { l with functions := Sorted.insert name f l.functions }

def filterNames (l : Library) : List String := Sorted.keys l.filters

def functionNames (l : Library) : List String := Sorted.keys l.functions

/-- What the library holds, as diagnostics show it. -/
def display (l : Library) : String :=
  "FunctionLibrary \x7b filters: " ++ Text.quotedList l.filterNames ++ ", functions: " ++
    Text.quotedList l.functionNames ++ " \x7d"

end Library

end Collage
