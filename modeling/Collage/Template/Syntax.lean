import Collage.Text.Quoted
import Collage.Decimal.Text

/-! # Syntax of the template language

A definition's source is read into a list of pieces: text that is written as it stands, values to be
written, and tags that choose, repeat or name parts.  Values are written as expressions: a term, the
filters it is put through, and whether the outcome is negated.
-/

namespace Collage.Template

inductive MathOp where
  | add | sub | mul | div | modulo
  deriving DecidableEq, Repr

/-- An operation that answers yes or no. -/
inductive LogicOp where
  | and | or | lt | le | gt | ge | eq | ne
  deriving DecidableEq, Repr

mutual

/-- A term with the filters it is put through, in order. -/
inductive Expr where
  | mk (term : Term) (negated : Bool) (filters : List Call)

/-- A value before any filter. -/
inductive Term where
  | string (s : String)
  | int (i : Int)
  | float (x : Float)
  | bool (b : Bool)
  /-- A variable, with the fields and places looked up in it. -/
  | ident (path : String)
  | call (c : Call)
  | test (path : String) (negated : Bool) (name : String) (args : List Expr)
  | array (items : List Expr)
  | concat (parts : List Term)
  | isIn (item container : Expr) (negated : Bool)
  | math (op : MathOp) (left right : Expr)
  | logic (op : LogicOp) (left right : Expr)

/-- A filter or function with its named arguments; of several with one name the last one counts. -/
inductive Call where
  | mk (name : String) (args : List (String × Expr))

end

namespace Call

def name : Call → String
  | mk name _ => name

def args : Call → List (String × Expr)
  | mk _ args => args

end Call

namespace Expr

def term : Expr → Term
  | mk term _ _ => term

def filters : Expr → List Call
  | mk _ _ filters => filters

def negated : Expr → Bool
  | mk _ negated _ => negated

def ofTerm (t : Term) : Expr := mk t false []

/-- The arguments of a `default` filter that comes first. -/
def default? (e : Expr) : Option (List (String × Expr)) :=
  match e.filters with
  | c :: _ => if c.name = "default" then some c.args else none
  | [] => none

/-- Whether the last filter declares the outcome safe. -/
def isMarkedSafe (e : Expr) : Bool := e.filters.getLast?.any fun c => c.name = "safe"

end Expr

/-- A piece of a definition. -/
inductive Piece where
  | text (s : String)
  | output (e : Expr)
  | assign (name : String) (everywhere : Bool) (e : Expr)
  /-- A part whose outcome goes through a filter. -/
  | filtered (filter : Call) (body : List Piece)
  | choose (branches : List (Expr × List Piece)) (otherwise : List Piece)
  | each (key : Option String) (value : String) (container : Expr) (body : List Piece)
      (whenEmpty : List Piece)
  | leave
  | advance
  | block (name : String) (body : List Piece)
  /-- What the next declaration of the block says. -/
  | inherited
  /-- The first of the named definitions that exists. -/
  | embed (names : List String) (mayBeMissing : Bool)

/-- A definition read from its source. -/
structure Definition where
  name : String
  body : List Piece
  parent : Option String

/-! ## Terms in diagnostics -/

def MathOp.word : MathOp → String
  | add => "Add"
  | sub => "Sub"
  | mul => "Mul"
  | div => "Div"
  | modulo => "Modulo"

def LogicOp.word : LogicOp → String
  | and => "And"
  | or => "Or"
  | lt => "Lt"
  | le => "Lte"
  | gt => "Gt"
  | ge => "Gte"
  | eq => "Eq"
  | ne => "NotEq"

/-- A name with the parts in braces after it. -/
def record (name : String) (parts : List (String × String)) : String :=
  name ++ " \x7b " ++ ", ".intercalate (parts.map fun (k, v) => k ++ ": " ++ v) ++ " \x7d"

mutual

/-- An expression as diagnostics show it. -/
def Expr.display : Expr → String
  | .mk term negated filters =>
    record "Expr" [("val", term.display), ("negated", toString negated),
      ("filters", "[" ++ ", ".intercalate (displayCalls filters) ++ "]")]

def Term.display : Term → String
  | .string s => "String(" ++ Text.quoted s ++ ")"
  | .int i => "Int(" ++ toString i ++ ")"
  | .float x => "Float(" ++ Decimal.floatText .diagnostic x ++ ")"
  | .bool b => "Bool(" ++ toString b ++ ")"
  | .ident path => "Ident(" ++ Text.quoted path ++ ")"
  | .call c => "FunctionCall(" ++ c.display ++ ")"
  | .test path negated name args =>
    "Test(" ++ record "Test" [("ident", Text.quoted path), ("negated", toString negated),
      ("name", Text.quoted name),
      ("args", "[" ++ ", ".intercalate (displayExprs args) ++ "]")] ++ ")"
  | .array items => "Array([" ++ ", ".intercalate (displayExprs items) ++ "])"
  | .concat parts =>
    "StringConcat(" ++
      record "StringConcat" [("values", "[" ++ ", ".intercalate (displayTerms parts) ++ "]")] ++ ")"
  | .isIn item container negated =>
    "In(" ++ record "In" [("lhs", item.display), ("rhs", container.display),
      ("negated", toString negated)] ++ ")"
  | .math op left right =>
    "Math(" ++ record "MathExpr" [("lhs", left.display), ("rhs", right.display),
      ("operator", op.word)] ++ ")"
  | .logic op left right =>
    "Logic(" ++ record "LogicExpr" [("lhs", left.display), ("rhs", right.display),
      ("operator", op.word)] ++ ")"

def Call.display : Call → String
  | .mk name args =>
    record "FunctionCall" [("name", Text.quoted name),
      ("args", "\x7b" ++ ", ".intercalate (displayArgs args) ++ "\x7d")]

def displayCalls : List Call → List String
  | [] => []
  | c :: rest => c.display :: displayCalls rest

def displayExprs : List Expr → List String
  | [] => []
  | e :: rest => e.display :: displayExprs rest

def displayTerms : List Term → List String
  | [] => []
  | t :: rest => t.display :: displayTerms rest

def displayArgs : List (String × Expr) → List String
  | [] => []
  | (name, e) :: rest =>
    if rest.any (·.1 = name) then displayArgs rest
    else (Text.quoted name ++ ": " ++ e.display) :: displayArgs rest

end

end Collage.Template
