import Collage.Template.Calculation
import Collage.Template.Scope
import Collage.Template.Standard

/-! # Values of expressions

`Expr.value` is what an expression stands for in a scope, `Expr.holds` whether it holds as a
condition and `Expr.number` what it is in a calculation.

Texts that come out of variables, literals and calls that are not safe are escaped on their way into
the output, unless `safe` is the last filter; inside arguments and on the two sides of `in` nothing
is.  `default` gives a value
to a variable that has none or is null.
-/

namespace Collage.Template

/-- What expressions are evaluated in. -/
structure Setting where
  library : Library
  scope : Scope

structure Raw where
  value : Json
  escaped : Bool

/-- What a term is before its filters. -/
inductive Start where
  /-- The value of the whole expression. -/
  | settled (value : Json)
  /-- A value that goes through the filters. -/
  | open (raw : Raw)

/-- The value of an expression from the start that its term makes: filters, negation, escaping. -/
def conclude (escaping negated safe : Bool) (through : Raw → Except Fault Raw)
    (start : Except Fault Start) : Except Fault Json := do
  match ← start with
  | .settled value => .ok value
  | .open raw =>
    let raw ← through raw
    if negated then .ok (.bool (!raw.value.isTruthy))
    else
      match raw.value with
      | .string s =>
        if escaping && raw.escaped && !safe then .ok (.string (Text.escaped s)) else .ok raw.value
      | _ => .ok raw.value

/-- What a variable starts from.  One without a value takes the default, or is an answer of its own
where it is negated. -/
def startOf (found : Except Fault Json) (negated : Bool)
    (default? : Option (Unit → Except Fault Json)) : Except Fault Start :=
  match found, default? with
  | .ok .null, some value => do .ok (.open ⟨← value (), true⟩)
  | .ok value, _ => .ok (.open ⟨value, true⟩)
  | .error _, some value => do .ok (.open ⟨← value (), true⟩)
  | .error fault, none => if negated then .ok (.settled (.bool true)) else .error fault

/-- The text of a value that is joined to another one. -/
def joinable (source : Source) : Json → Except Fault String
  | .string s => .ok s
  | .number n => .ok n.text
  | _ => .error (.notJoinable source)

/-- Whether a text joined from some parts is escaped where it is written: the last function among
them decides, and without one it is not. -/
def isJoinEscaped (l : Library) (parts : List Term) : Bool :=
  let names := parts.filterMap fun
    | .call c => some c.name
    | _ => none
  (names.getLast?.bind fun name => l.functions.lookup name).any fun f => !f.safe

def numberOf (fault : Fault) : Json → Except Fault (Option Number)
  | .number n => .ok (some n)
  | _ => .error fault

def isIn (item container : Json) : Except Fault Bool :=
  match container, item with
  | .array items, _ => .ok (items.any (· == item))
  | .string s, .string part => .ok (Text.occursIn part.toList s.toList)
  | .string _, _ => .error (.notText item "string")
  | .object fields, .string name => .ok (fields.lookup name).isSome
  | .object _, _ => .error (.notText item "object")
  | _, _ => .error .noContainer

/-- Whether two values are the same, where numbers are compared as doubles; none where one of them
alone is a number. -/
def same? : Json → Json → Option Bool
  | .number a, .number b => some (a.toFloat == b.toFloat)
  | .number _, _ | _, .number _ => none
  | a, b => some (a == b)

/-- Whether two numbers are in the order that a comparison asks for. -/
def inOrder (op : LogicOp) (a b : Float) : Bool :=
  match op with
  | .lt => a < b
  | .le => a ≤ b
  | .gt => b < a
  | _ => b ≤ a

def callFunction (l : Library) (name : String) (args : Arguments) : Except Fault Raw :=
  match l.functions.lookup name with
  | none => .error (.unknown .function name)
  | some f =>
    match f.call args with
    | .ok value => .ok ⟨value, !f.safe⟩
    | .error reason => .error (.callFailed .function name (.refused reason))

def callFilter (l : Library) (name : String) (args : Arguments) (value : Json) :
    Except Fault Raw :=
  match filter? l name with
  | none => .error (.unknown .filter name)
  | some f =>
    match f.apply value args with
    | .ok value => .ok ⟨value, !f.safe⟩
    | .error reason => .error (.callFailed .filter name (.refused reason))

/-- Marks a fault as one of the arguments of a call. -/
def inCall {α : Type} (kind : CallKind) (name : String) : Except Fault α → Except Fault α
  | .ok a => .ok a
  | .error cause => .error (.callFailed kind name cause)

/-- The answer of a test about a variable that has a value or none. -/
def answer (name : String) (args : Except Fault (List Json)) (found : Bool) :
    Except Fault Bool := do
  if name = "defined" ∨ name = "undefined" then
    if (← inCall .test name args).isEmpty then .ok (found == decide (name = "defined"))
    else .error (.callFailed .test name (.takesNone name))
  else .error (.unknown .test name)

/-- The outcome of an operation on two numbers; `shown` are the operands in diagnostics. -/
def combine (op : MathOp) (shown : Expr × Expr) (left right : Except Fault (Option Number)) :
    Except Fault (Option Number) := do
  match ← left, ← right with
  | some a, some b => calculate op a b shown
  | _, _ => .ok none

/-- What an operand of a condition is, worked out where it is asked for. -/
structure Operand where
  value : Unit → Except Fault Json
  holds : Unit → Except Fault Bool
  number : Unit → Except Fault (Option Number)

/-- Whether two operands are as an operation on them says, or are not where that is negated. -/
def satisfies (op : LogicOp) (negated : Bool) (left right : Operand) : Except Fault Bool :=
  match op with
  | .or => do
    if ← left.holds () then .ok (!negated) else .ok ((← right.holds ()) != negated)
  | .and => do
    if ← left.holds () then .ok ((← right.holds ()) != negated) else .ok negated
  | .eq => do
    match same? (← left.value ()) (← right.value ()) with
    | some b => .ok (b != negated)
    | none => .ok false
  | .ne => do
    match same? (← left.value ()) (← right.value ()) with
    | some b => .ok (b == negated)
    | none => .ok false
  | op => do
    match ← left.number (), ← right.number () with
    | some a, some b => .ok (inOrder op a.toFloat b.toFloat != negated)
    | _, _ => .error .incomparable

variable (σ : Setting)

mutual

def Expr.value (escaping : Bool) : Expr → Except Fault Json
  | .mk term negated filters =>
    conclude escaping negated (filters.getLast?.any (·.name = "safe"))
      (throughFilters filters) (term.start escaping negated (defaultValue escaping filters))

def Expr.holds (escaping : Bool) : Expr → Except Fault Bool
  | .mk term negated filters =>
    match term with
    | .logic op left right =>
      satisfies op negated
        ⟨fun _ => left.value escaping, fun _ => left.holds escaping, fun _ => left.number escaping⟩
        ⟨fun _ => right.value escaping, fun _ => right.holds escaping,
          fun _ => right.number escaping⟩
    | .ident path =>
      let value := conclude escaping negated (filters.getLast?.any (·.name = "safe"))
        (throughFilters filters)
        (startOf (σ.scope.value path) negated (defaultValue escaping filters))
      match value with
      | .ok v => .ok v.isTruthy
      | .error _ => .ok false
    | .concat parts => do
      let value ← conclude escaping negated (filters.getLast?.any (·.name = "safe"))
        (throughFilters filters)
        (do
          let text := String.join (← concatTexts parts)
          .ok (.open ⟨.string text, isJoinEscaped σ.library parts⟩))
      .ok ((value.string?.any (· ≠ "")) != negated)
    | .int i => .ok ((i != 0) != negated)
    | .float x => .ok ((x != 0) != negated)
    | .bool b => .ok (b != negated)
    | .string s => .ok ((s != "") != negated)
    | .array items => .ok (!items.isEmpty != negated)
    | .math op left right => do
      match ← combine op (left, right) (left.number escaping) (right.number escaping) with
      | some n => .ok ((n.toFloat != 0) != negated)
      | none => .ok negated
    | .isIn item container isNot => do
      let present ← isIn (← item.value false) (← container.value false)
      .ok ((present != isNot) != negated)
    | .test path isNot name args => do
      .ok (((← answer name (values false args) (σ.scope.value path).isOk) != isNot) != negated)
    | .call c => do
      match (← c.outcome).value with
      | .bool b => .ok (b != negated)
      | _ => .error (.notBoolean c.name)

/-- What an expression is in a calculation; none for an outcome that is no number. -/
def Expr.number (escaping : Bool) : Expr → Except Fault (Option Number)
  | .mk term negated filters =>
    if filters.isEmpty then term.number escaping
    else do
      let value ← conclude escaping negated (filters.getLast?.any (·.name = "safe"))
        (throughFilters filters) (term.start escaping negated (defaultValue escaping filters))
      numberOf .notNumber value

/-- What a term starts an expression with. -/
def Term.start (escaping negated : Bool) (default? : Option (Unit → Except Fault Json)) :
    Term → Except Fault Start
  | .string s => .ok (.open ⟨.string s, true⟩)
  | .int i => .ok (.open ⟨.number (.ofInt i), false⟩)
  | .float x => .ok (.open ⟨.number (.double x), false⟩)
  | .bool b => .ok (.open ⟨.bool b, false⟩)
  | .ident path => startOf (σ.scope.value path) negated default?
  | .call c => do .ok (.open (← c.outcome))
  | .test path isNot name args => do
    let passed ← answer name (values false args) (σ.scope.value path).isOk
    .ok (.open ⟨.bool (passed != isNot), false⟩)
  | .array items => do .ok (.open ⟨.array (← values escaping items), false⟩)
  | .concat parts => do
    let text := String.join (← concatTexts parts)
    .ok (.open ⟨.string text, isJoinEscaped σ.library parts⟩)
  | .isIn item container isNot => do
    let present ← isIn (← item.value false) (← container.value false)
    .ok (.open ⟨.bool (present != isNot), false⟩)
  | .math op left right =>
    match combine op (left, right) (left.number escaping) (right.number escaping) with
    | .ok (some n) => .ok (.open ⟨.number n, false⟩)
    | .ok none => .ok (.open ⟨.string "NaN", false⟩)
    | .error cause => .error (.calculation cause)
  | .logic op left right => do
    let answer ←
      satisfies op negated
        ⟨fun _ => left.value escaping, fun _ => left.holds escaping, fun _ => left.number escaping⟩
        ⟨fun _ => right.value escaping, fun _ => right.holds escaping,
          fun _ => right.number escaping⟩
    .ok (.open ⟨.bool answer, false⟩)

/-- What a term is in a calculation. -/
def Term.number (escaping : Bool) : Term → Except Fault (Option Number)
  | .ident path => do numberOf (.notNumberSource (.variable path)) (← σ.scope.value path)
  | .int i => .ok (some (.ofInt i))
  | .float x => .ok (some (.double x))
  | .math op left right =>
    combine op (left, right) (left.number escaping) (right.number escaping)
  | .call c => do numberOf (.notNumberSource (.function c.name)) (← c.outcome).value
  | .string s => .error (.neverNumber (.string s))
  | .bool b => .error (.neverNumber (.bool b))
  | .concat parts => .error (.neverNumber (.concat parts))
  | .test _ _ name _ => .error (.neverNumber (.test name))
  | .array items => .error (.neverNumber (.other (.array items)))
  | .isIn item container isNot => .error (.neverNumber (.other (.isIn item container isNot)))
  | .logic op left right => .error (.neverNumber (.other (.logic op left right)))

def Call.outcome : Call → Except Fault Raw
  | .mk name args => do
    match σ.library.functions.lookup name with
    | none => .error (.unknown .function name)
    | some _ => callFunction σ.library name (← inCall .function name (arguments args))

def Call.applied (value : Json) : Call → Except Fault Raw
  | .mk name args => do
    match filter? σ.library name with
    | none => .error (.unknown .filter name)
    | some _ => callFilter σ.library name (← inCall .filter name (arguments args)) value

def throughFilters : List Call → Raw → Except Fault Raw
  | [], raw => .ok raw
  | filter :: rest, raw => do
    if filter.name = "safe" ∨ filter.name = "default" then throughFilters rest raw
    else throughFilters rest (← filter.applied raw.value)

/-- The value of a `default` filter that comes first. -/
def defaultValue (escaping : Bool) : List Call → Option (Unit → Except Fault Json)
  | .mk name args :: _ =>
    if name = "default" then some fun _ => argument escaping args else none
  | [] => none

/-- The value of the argument `value`; of several the last one counts. -/
def argument (escaping : Bool) : List (String × Expr) → Except Fault Json
  | [] => .error .noDefault
  | (name, e) :: rest =>
    if name = "value" ∧ (rest.lookup "value").isNone then e.value escaping
    else argument escaping rest

/-- The values of named arguments.  Of several with one name only the last one is worked out. -/
def arguments : List (String × Expr) → Except Fault Arguments
  | [] => .ok []
  | (name, e) :: rest => do
    if rest.any (·.1 = name) then arguments rest
    else
      let value ← e.value false
      .ok ((name, value) :: (← arguments rest))

def values (escaping : Bool) : List Expr → Except Fault (List Json)
  | [] => .ok []
  | e :: rest => do .ok ((← e.value escaping) :: (← values escaping rest))

/-- The texts of the parts of a concatenation. -/
def concatTexts : List Term → Except Fault (List String)
  | [] => .ok []
  | part :: rest => do .ok ((← part.joinText) :: (← concatTexts rest))

/-- The text of a part of a concatenation. -/
def Term.joinText : Term → Except Fault String
  | .string s => .ok s
  | .int i => .ok (toString i)
  | .float x => .ok (Decimal.floatText .expanded x)
  | .ident path => do joinable (.variable path) (← σ.scope.value path)
  | .call c => do joinable (.function c.name) (← c.outcome).value
  | .bool _ | .test .. | .array _ | .concat _ | .isIn .. | .math .. | .logic .. => .ok ""

end

end Collage.Template
