import Collage.Template.Syntax
import Collage.Library.Basic

/-! # What can go wrong while a template is rendered

A fault is met in some place of a definition and may be the cause of another one: a filter fails
because an argument does, and rendering fails because of either.  `Fault.text` tells all of it,
outermost first.
-/

namespace Collage.Template

mutual

/-- A value as diagnostics show it. -/
def shown : Json → String
  | .null => "Null"
  | .bool b => "Bool(" ++ toString b ++ ")"
  | .number n => "Number(" ++ n.text ++ ")"
  | .string s => "String(" ++ Text.quoted s ++ ")"
  | .array items => "Array [" ++ ", ".intercalate (shownItems items) ++ "]"
  | .object fields => "Object \x7b" ++ ", ".intercalate (shownFields fields) ++ "\x7d"

def shownItems : List Json → List String
  | [] => []
  | item :: items => shown item :: shownItems items

def shownFields : List (String × Json) → List String
  | [] => []
  | (name, value) :: fields => (Text.quoted name ++ ": " ++ shown value) :: shownFields fields

end

/-- What a called name is. -/
inductive CallKind where
  | filter | function | test
  deriving DecidableEq, Repr

def CallKind.word : CallKind → String
  | filter => "Filter"
  | function => "Function"
  | test => "Test"

/-- What a variable or function gives, where something else is wanted. -/
inductive Source where
  | variable (path : String)
  | function (name : String)

/-- What stands in a calculation in place of a number. -/
inductive NonNumber where
  | string (s : String)
  | bool (b : Bool)
  | concat (parts : List Term)
  | test (name : String)
  | other (t : Term)

/-- What stops rendering. -/
inductive Fault where
  /-- A variable has no value; `evaluated` is the path after the places in brackets were found. -/
  | missing (path active : String) (evaluated : Option String)
  /-- A place in brackets has no value. -/
  | placeFailed (path : String) (cause : Fault)
  /-- A place in brackets is neither a text nor a number. -/
  | notPlace (place path : String)
  /-- A called name means nothing. -/
  | unknown (kind : CallKind) (name : String)
  | refused (reason : Refusal)
  | takesNone (test : String)
  /-- A call fails because something in it does. -/
  | callFailed (kind : CallKind) (name : String) (cause : Fault)
  /-- The `default` filter has no value to give. -/
  | noDefault
  /-- Something that is joined to a text is neither a text nor a number. -/
  | notJoinable (source : Source)
  /-- Numbers are compared with something that is no number. -/
  | incomparable
  /-- A function in a condition does not give a boolean. -/
  | notBoolean (function : String)
  | notNumber
  | notNumberSource (source : Source)
  /-- An operand can never be a number. -/
  | neverNumber (operand : NonNumber)
  /-- The outcome does not fit the integers. -/
  | outOfBounds (left : Int) (op : MathOp) (right : Int) (signed : Bool)
  | moduloZero (left right : Expr)
  | calculation (cause : Fault)
  /-- What is looked for in a text or an object is not a text. -/
  | notText (item : Json) (container : String)
  /-- Nothing can be looked for in a value. -/
  | noContainer
  /-- A value of this form cannot be gone through. -/
  | notIterable (t : Term)
  /-- Keys are asked of a value that has none. -/
  | noKeys (container : String)
  /-- An object is gone through without a variable for its keys. -/
  | keyWanted (container : String)
  /-- A value of this type cannot be gone through. -/
  | badContainer (container : String)
  /-- A loop is left or advanced where there is none. -/
  | noLoop (word : String)
  /-- A block asks for the next declaration, and there is none. -/
  | noNextDeclaration
  /-- A template that is embedded extends another one. -/
  | extendsInside (parent : String)
  /-- None of some definitions exists. -/
  | noTemplate (names : List String)
  | tooDeep
  | rendering (name note : String) (cause : Fault)

/-- The word for an operation in a sentence about its outcome. -/
def MathOp.symbol : MathOp → String
  | add => "+"
  | sub => "-"
  | mul => "x"
  | div => "/"
  | modulo => "%"

/-- A part of a concatenation as diagnostics show it. -/
def partText : Term → String
  | .string s => "'" ++ s ++ "'"
  | .ident path => path
  | _ => "unknown"

/-- What stands in place of a number, in words. -/
def NonNumber.text : NonNumber → String
  | string s => "a string: `" ++ s ++ "`"
  | bool b => "a boolean: `" ++ toString b ++ "`"
  | concat parts => "a string concatenation: " ++ " ~ ".intercalate (parts.map partText)
  | test name => "a test: " ++ name
  | other t => "a value: " ++ t.display

namespace Fault

/-- What a fault says by itself. -/
def headline : Fault → String
  | missing path active none =>
    "Variable `" ++ path ++ "` not found in context while rendering '" ++ active ++ "'"
  | missing path active (some evaluated) =>
    "Variable `" ++ path ++ "` not found in context while rendering '" ++ active ++
      "': the evaluated version was `" ++ evaluated ++ "`. Maybe the index is out of bounds?"
  | placeFailed path cause =>
    "Variable " ++ path ++ " can not be evaluated because: " ++ headline cause
  | notPlace place path =>
    "Only variables evaluating to String or Number can be used as index (`" ++ place ++ "` of `" ++
      path ++ "`)"
  | unknown kind name => kind.word ++ " '" ++ name ++ "' not found"
  | refused reason => reason.text
  | takesNone test =>
    "Tester `" ++ test ++ "` was called with some args but this test doesn't take args"
  | callFailed kind name _ => kind.word ++ " call '" ++ name ++ "' failed"
  | noDefault => "The `default` filter requires a `value` argument."
  | notJoinable (.variable path) =>
    "Tried to concat a value that is not a string or a number from ident " ++ path
  | notJoinable (.function name) =>
    "Tried to concat a value that is not a string or a number from function call " ++ name
  | incomparable => "Comparison to NaN"
  | notBoolean function =>
    "Function `" ++ function ++
      "` was used in a logic operation but is not returning a bool"
  | notNumber => "Tried to do math with an expression not resulting in a number"
  | notNumberSource (.variable path) =>
    "Variable `" ++ path ++ "` was used in a math operation but is not a number"
  | notNumberSource (.function name) =>
    "Function `" ++ name ++ "` was used in a math operation but is not returning a number"
  | neverNumber operand => "Tried to do math with " ++ operand.text
  | outOfBounds left op right signed =>
    toString left ++ " " ++ op.symbol ++ " " ++ toString right ++
      " results in an out of bounds " ++ (if signed then "i64" else "u64")
  | moduloZero left right =>
    "Tried to do a modulo by zero: " ++ left.display ++ "/" ++ right.display
  | calculation cause => headline cause
  | notText item container =>
    "Tried to check if " ++ shown item ++ " is in a " ++ container ++ ", but it isn't a string"
  | noContainer => "The `in` operator only supports strings, arrays and objects."
  | notIterable t =>
    "Forloop containers have to be an ident or a function call (tried to iterate on '" ++
      t.display ++ "')"
  | noKeys container =>
    "Tried to iterate using key value on variable `" ++ container ++
      "`, but it isn't an object/map"
  | keyWanted container =>
    "Tried to iterate using key value on variable `" ++ container ++ "`, but it is missing a key"
  | badContainer container =>
    "Tried to iterate on a container (`" ++ container ++ "`) that has a unsupported type"
  | noLoop word => "Attempted `" ++ word ++ "` while not in `for loop`"
  | noNextDeclaration => "Tried to use super() in the top level block"
  | extendsInside parent =>
    "Inheritance in included templates is currently not supported: extended `" ++ parent ++ "`"
  | noTemplate names => "Template '[" ++ ", ".intercalate names ++ "]' not found"
  | tooDeep => "Definitions are embedded in one another too deeply"
  | rendering name note _ => "Failed to render '" ++ name ++ "'" ++ note

/-- The headlines of a fault and of its causes, outermost first. -/
def headlines : Fault → List String
  | callFailed kind name cause => headline (callFailed kind name cause) :: headlines cause
  | rendering name note cause => headline (rendering name note cause) :: headlines cause
  | fault => [headline fault]

end Fault

end Collage.Template
