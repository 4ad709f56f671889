import Collage.Template.Syntax
import Collage.Markup

/-! # Reading expressions

Each function reads one phrase of the expression grammar from the front of a text and gives it with
the text after it, or nothing.  Alternatives are tried in order and the first that fits is final.
Blanks may stand between the parts of a phrase but not inside names, numbers and strings.

Phrases in brackets are read by the functions of the next level (`Level`), so that `level n` reads
phrases nested `n` deep; a text holds no deeper ones than it has characters.
-/

namespace Collage.Template.Expression

/-- Reads a phrase from the front of a text. -/
abbrev Phrase (α : Type) := List Char → Option (α × List Char)

/-- The blanks of the template language. -/
def isSpace (c : Char) : Bool := c = ' ' || c = '\t' || c = '\r' || c = '\n'

def skip (text : List Char) : List Char := text.dropWhile isSpace

/-- The text after a fixed word at its front. -/
def word? (w : String) (text : List Char) : Option (List Char) := Markup.literal? w.toList text

/-- The text after a fixed word and at least one blank at its front. -/
def spaced? (w : String) (text : List Char) : Option (List Char) :=
  match word? w text with
  | some (c :: rest) => if isSpace c then some rest else none
  | _ => none

/-- The first of two phrases that fits. -/
def either {α : Type} (a b : Phrase α) : Phrase α := fun text =>
  match a text with
  | some r => some r
  | none => b text

/-- As many phrases as follow one another, with blanks between them; `fuel` bounds their number. -/
def many {α : Type} (p : Phrase α) : Nat → List Char → List α × List Char
  | 0, text => ([], text)
  | fuel + 1, text =>
    match p (skip text) with
    | some (a, rest) =>
      let (others, rest) := many p fuel rest
      (a :: others, rest)
    | none => ([], text)

/-- Phrases with commas between them; with `trailing`, a comma may follow the last.  `fuel` bounds
their number. -/
def commaSeparated {α : Type} (p : Phrase α) (trailing : Bool) (fuel : Nat) :
    Phrase (List α) := fun text => do
  let (first, rest) ← p text
  let another : Phrase α := fun text => do
    let rest ← word? "," text
    p (skip rest)
  let (others, rest) := many another fuel rest
  match word? "," (skip rest) with
  | some after => some (first :: others, if trailing then after else rest)
  | none => some (first :: others, rest)

/-! ## Names, numbers and strings -/

/-- Whether a name may begin with a character. -/
def isNameStart (c : Char) : Bool :=
  ('a' ≤ c && c ≤ 'z') || ('A' ≤ c && c ≤ 'Z') || c = '_'

/-- Whether a name may go on with a character. -/
def isNamePart (c : Char) : Bool := isNameStart c || ('0' ≤ c && c ≤ '9')

def name? : Phrase String
  | c :: rest =>
    if isNameStart c then
      some (String.ofList (c :: rest.takeWhile isNamePart), rest.dropWhile isNamePart)
    else none
  | [] => none

/-- Decimal digits, at least one. -/
def digits? (text : List Char) : Option (List Char × List Char) :=
  let isDigit (c : Char) := '0' ≤ c && c ≤ '9'
  if text.head?.any isDigit then some (text.takeWhile isDigit, text.dropWhile isDigit) else none

/-- The digits of an integral part: a zero, or digits that do not begin with one. -/
def integral? (text : List Char) : Option (List Char × List Char) :=
  match text with
  | '0' :: rest => some (['0'], rest)
  | _ => digits? text

def sign (text : List Char) : Bool × List Char :=
  match text with
  | '-' :: rest => (true, rest)
  | _ => (false, text)

def natOf (digits : List Char) : Nat :=
  digits.foldl (fun n c => n * 10 + (c.toNat - '0'.toNat)) 0

/-- An integer: whether it is negative, and its digits. -/
def intDigits? : Phrase (Bool × List Char) := fun text => do
  let (negative, rest) := sign text
  let (digits, rest) ← integral? rest
  some ((negative, digits), rest)

def int? : Phrase Term := fun text => do
  let ((negative, digits), rest) ← intDigits? text
  some (.int (if negative then -(natOf digits : Int) else natOf digits), rest)

def float? : Phrase Term := fun text => do
  let (negative, rest) := sign text
  let (whole, rest) ← integral? rest
  let rest ← word? "." rest
  let (fraction, rest) ← digits? rest
  let x := Float.ofScientific (natOf (whole ++ fraction)) true fraction.length
  some (.float (if negative then -x else x), rest)

/-- A string in quotes, which may not hold the quote it begins with: the quote and the string. -/
def quoted? : Phrase (Char × List Char)
  | q :: rest =>
    if q = '"' ∨ q = '\'' ∨ q = '`' then
      match rest.dropWhile (· ≠ q) with
      | _ :: after => some ((q, rest.takeWhile (· ≠ q)), after)
      | [] => none
    else none
  | [] => none

def string? : Phrase String := fun text =>
  (quoted? text).map fun ((_, s), rest) => (String.ofList s, rest)

def bool? : Phrase Term := fun text =>
  match word? "true" text, word? "false" text, word? "True" text, word? "False" text with
  | some rest, _, _, _ => some (.bool true, rest)
  | _, some rest, _, _ => some (.bool false, rest)
  | _, _, some rest, _ => some (.bool true, rest)
  | _, _, _, some rest => some (.bool false, rest)
  | none, none, none, none => none

/-! ## Paths

A path is a name followed by fields after points and by places in square brackets.  It is kept as
it is written. -/

/-- What stands in the brackets of a place: an integer, a string or a path, which `path` reads. -/
def place? (path : Phrase (List Char)) : Phrase (List Char) := fun text =>
  match intDigits? text with
  | some ((negative, digits), rest) => some (if negative then '-' :: digits else digits, rest)
  | none =>
    match quoted? text with
    | some ((q, s), rest) => some (q :: s ++ [q], rest)
    | none => path text

/-- A field or place of a path. -/
def pathStep? (path : Phrase (List Char)) : Phrase (List Char)
  | '.' :: c :: rest =>
    if isNamePart c then some ('.' :: c :: rest.takeWhile isNamePart, rest.dropWhile isNamePart)
    else none
  | '[' :: rest =>
    match place? path rest with
    | some (inside, ']' :: rest) => some ('[' :: inside ++ [']'], rest)
    | _ => none
  | _ => none

/-- All fields and places of a path that follow one another; `fuel` bounds their number. -/
def pathSteps (path : Phrase (List Char)) : Nat → List Char → List Char × List Char
  | 0, text => ([], text)
  | fuel + 1, text =>
    match pathStep? path text with
    | some (step, rest) =>
      let (steps, rest) := pathSteps path fuel rest
      (step ++ steps, rest)
    | none => ([], text)

/-- The characters of a path whose brackets are nested at most `depth` deep; `fuel` bounds its
fields and places. -/
def pathChars? (fuel : Nat) : Nat → Phrase (List Char)
  | 0, _ => none
  | depth + 1, text =>
    match name? text with
    | some (name, rest) =>
      let (steps, rest) := pathSteps (pathChars? fuel depth) fuel rest
      some (name.toList ++ steps, rest)
    | none => none

/-- A path; `fuel` bounds its parts. -/
def path? (fuel : Nat) : Phrase String := fun text =>
  (pathChars? fuel (fuel + 1) text).map fun (path, rest) => (String.ofList path, rest)

/-! ## Levels -/

/-- The phrases that may stand inside brackets. -/
structure Level where
  /-- How many phrases may follow one another. -/
  fuel : Nat
  logic : Phrase Expr
  basic : Phrase Term
  array : Phrase Expr

/-- Reads nothing. -/
def Level.none (fuel : Nat) : Level := ⟨fuel, fun _ => .none, fun _ => .none, fun _ => .none⟩

section

variable (inner : Level)

def value? : Phrase Expr := either inner.logic inner.array

def argument? : Phrase (String × Expr) := fun text => do
  let (name, rest) ← name? text
  let rest ← word? "=" (skip rest)
  let (e, rest) ← value? inner (skip rest)
  some ((name, e), rest)

/-- A name with arguments in parentheses. -/
def call? : Phrase Call := fun text => do
  let (name, rest) ← name? text
  let rest ← word? "(" (skip rest)
  let (args, rest) :=
    match commaSeparated (argument? inner) true inner.fuel (skip rest) with
    | some (args, rest) => (args, rest)
    | .none => ([], rest)
  let rest ← word? ")" (skip rest)
  some (.mk name args, rest)

/-- A name with or without arguments. -/
def callOrName? : Phrase Call :=
  either (call? inner) fun text => (name? text).map fun (name, rest) => (.mk name [], rest)

/-- A filter after its bar. -/
def filter? : Phrase Call := fun text => do
  let rest ← word? "|" text
  callOrName? inner (skip rest)

def filters (text : List Char) : List Call × List Char := many (filter? inner) inner.fuel text

/-- A term with the filters that follow it. -/
def withFilters (term : Phrase Term) : Phrase Expr := fun text => do
  let (t, rest) ← term text
  let (fs, rest) := filters inner rest
  some (.mk t false fs, rest)

/-! ## Terms -/

/-- A test by its name, with its arguments. -/
def testCall? : Phrase (String × List Expr) := fun text => do
  let (name, rest) ← name? text
  let args? : Option (List Expr × List Char) := do
    let rest ← word? "(" (skip rest)
    let (args, rest) ← commaSeparated (value? inner) false inner.fuel (skip rest)
    let rest ← word? ")" (skip rest)
    some (args, rest)
  match args? with
  | some (args, rest) => some ((name, args), rest)
  | .none => some ((name, []), rest)

/-- A test on a variable.  The word `not` needs no blank behind it. -/
def test? : Phrase Term := fun text => do
  let (path, rest) ← path? inner.fuel text
  let rest ← word? "is" (skip rest)
  let negated? : Option ((String × List Expr) × List Char) := do
    testCall? inner (skip (← word? "not" (skip rest)))
  match negated? with
  | some ((name, args), rest) => some (.test path true name args, rest)
  | .none =>
    let ((name, args), rest) ← testCall? inner (skip rest)
    some (.test path false name args, rest)

def single? : Phrase Term :=
  either bool? <| either (test? inner) <|
    either (fun text => (call? inner text).map fun (c, rest) => (.call c, rest)) <|
      either (fun text => (path? inner.fuel text).map fun (p, rest) => (.ident p, rest)) <|
        either float? int?

def mathOp? : Phrase MathOp
  | '+' :: rest => some (.add, rest)
  | '-' :: rest => some (.sub, rest)
  | '*' :: rest => some (.mul, rest)
  | '/' :: rest => some (.div, rest)
  | '%' :: rest => some (.modulo, rest)
  | _ => none

/-- Whether an operator binds its operands before addition and subtraction do. -/
def bindsFirst : MathOp → Bool
  | .add | .sub => false
  | _ => true

/-- The operands joined from left to right by the operators that bind first: the first operand, and
what is left to add or subtract. -/
def joinFactors (first : Expr) : List (MathOp × Expr) → Expr × List (MathOp × Expr)
  | [] => (first, [])
  | (op, e) :: rest =>
    if bindsFirst op then joinFactors (.ofTerm (.math op first e)) rest
    else
      let (e, rest) := joinFactors e rest
      (first, (op, e) :: rest)

/-- The operands joined by their operators, by precedence and from left to right. -/
def joinMath (first : Expr) (rest : List (MathOp × Expr)) : Expr :=
  let (first, rest) := joinFactors first rest
  rest.foldl (fun left (op, right) => .ofTerm (.math op left right)) first

/-- An operator and its right operand. -/
def operand? (operand : Phrase Expr) : Phrase (MathOp × Expr) := fun text => do
  let (op, rest) ← mathOp? text
  let (e, rest) ← operand (skip rest)
  some ((op, e), rest)

/-- A single value or a calculation in parentheses. -/
def factor? : Phrase Term :=
  either (fun text => do
    let rest ← word? "(" text
    let (t, rest) ← inner.basic (skip rest)
    let rest ← word? ")" (skip rest)
    some (t, rest)) (single? inner)

def basic? : Phrase Term := fun text => do
  let (first, rest) ← factor? inner text
  let operand : Phrase Expr := fun text =>
    (factor? inner text).map fun (t, rest) => (.ofTerm t, rest)
  let (others, rest) := many (operand? operand) inner.fuel rest
  some ((joinMath (.ofTerm first) others).term, rest)

def basicFilter? : Phrase Expr := withFilters inner (basic? inner)

/-- A part of a concatenation. -/
def part? : Phrase Term :=
  either (fun text => (call? inner text).map fun (c, rest) => (.call c, rest)) <|
    either float? <| either int? <|
      either (fun text => (string? text).map fun (s, rest) => (.string s, rest)) fun text =>
        (path? inner.fuel text).map fun (p, rest) => (.ident p, rest)

/-- The parts of a concatenation with the strings that follow one another made one, and without
those that hold nothing; `text` is what the strings so far hold. -/
def foldStrings (text : String) : List Term → List Term
  | [] => if text = "" then [] else [.string text]
  | .string s :: rest => foldStrings (text ++ s) rest
  | t :: rest =>
    if text = "" then t :: foldStrings "" rest else .string text :: t :: foldStrings "" rest

/-- The concatenation of some parts: a string if they all are. -/
def concatenated (parts : List Term) : Term :=
  match foldStrings "" parts with
  | [] => .string ""
  | [.string s] => .string s
  | parts => .concat parts

/-- Parts joined by tildes, at least two. -/
def concat? : Phrase Term := fun text => do
  let (first, rest) ← part? inner text
  let another : Phrase Term := fun text => do
    let rest ← word? "~" text
    part? inner (skip rest)
  match many another inner.fuel rest with
  | ([], _) => .none
  | (others, rest) => some (concatenated (first :: others), rest)

/-- A string or a concatenation, with filters. -/
def stringFilter? : Phrase Expr :=
  withFilters inner (either (concat? inner) fun text =>
    (string? text).map fun (s, rest) => (.string s, rest))

/-! ## Conditions -/

/-- A calculation whose operands have filters. -/
def comparable? : Phrase Expr := fun text => do
  let (first, rest) ← basicFilter? inner text
  let (others, rest) := many (operand? (basicFilter? inner)) inner.fuel rest
  some (joinMath first others, rest)

/-- An operator that compares. -/
def comparison? : Phrase LogicOp
  | '<' :: '=' :: rest => some (.le, rest)
  | '>' :: '=' :: rest => some (.ge, rest)
  | '>' :: rest => some (.gt, rest)
  | '<' :: rest => some (.lt, rest)
  | '=' :: '=' :: rest => some (.eq, rest)
  | '!' :: '=' :: rest => some (.ne, rest)
  | _ => none

/-- A value, or two values compared. -/
def compare? : Phrase Expr := fun text => do
  let side := either (stringFilter? inner) (comparable? inner)
  let (left, rest) ← side text
  let right? : Option (LogicOp × Expr × List Char) := do
    let (op, rest) ← comparison? (skip rest)
    let (right, rest) ← side (skip rest)
    some (op, right, rest)
  match right? with
  | some (op, right, rest) => some (.ofTerm (.logic op left right), rest)
  | .none => some (left, rest)

/-- What a value may be in: a text, a list literal or a path. -/
def container? : Phrase Expr :=
  either (stringFilter? inner) <| either inner.array fun text =>
    (path? inner.fuel text).map fun (p, rest) => (.ofTerm (.ident p), rest)

/-- Whether a value is among others. -/
def membership? : Phrase Expr := fun text => do
  let (item, rest) ← either (stringFilter? inner) (basicFilter? inner) text
  let (negated, rest) :=
    match spaced? "not" (skip rest) with
    | some rest => (true, rest)
    | .none => (false, rest)
  let rest ← word? "in" (skip rest)
  let (c, rest) ← container? inner (skip rest)
  some (.ofTerm (.isIn item c negated), rest)

/-- A condition without connectives. -/
def condition? : Phrase Expr :=
  either (fun text => do
    let (negated, rest) :=
      match spaced? "not" text with
      | some rest => (true, skip rest)
      | .none => (false, text)
    let (e, rest) ← either (membership? inner) (compare? inner) rest
    some (.mk e.term negated e.filters, rest)) fun text => do
    let rest ← word? "(" text
    let (e, rest) ← inner.logic (skip rest)
    let rest ← word? ")" (skip rest)
    some (.mk e.term false e.filters, rest)

/-- A connective and the condition after it. -/
def connected? : Phrase (LogicOp × Expr) := fun text => do
  let (op, rest) ←
    match spaced? "or" text with
    | some rest => some (LogicOp.or, rest)
    | .none => (spaced? "and" text).map (LogicOp.and, ·)
  let (e, rest) ← condition? inner (skip rest)
  some ((op, e), rest)

/-- The conditions joined by `and` from left to right, and what is left to join by `or`. -/
def joinAnds (first : Expr) : List (LogicOp × Expr) → Expr × List Expr
  | [] => (first, [])
  | (op, e) :: rest =>
    if op = .and then joinAnds (.ofTerm (.logic .and first e)) rest
    else
      let (e, rest) := joinAnds e rest
      (first, e :: rest)

def logic? : Phrase Expr := fun text => do
  let (first, rest) ← condition? inner text
  let (others, rest) := many (connected? inner) inner.fuel rest
  let (first, others) := joinAnds first others
  some (others.foldl (fun left right => .ofTerm (.logic .or left right)) first, rest)

def array? : Phrase Term := fun text => do
  let rest ← word? "[" text
  let (items, rest) :=
    match commaSeparated (condition? inner) true inner.fuel (skip rest) with
    | some (items, rest) => (items, rest)
    | .none => ([], rest)
  let rest ← word? "]" (skip rest)
  some (.array items, rest)

def arrayFilter? : Phrase Expr := withFilters inner (array? inner)

end

/-- The phrases nested at most `n` deep, of which at most `fuel` follow one another. -/
def level (fuel : Nat) : Nat → Level
  | 0 => .none fuel
  | n + 1 => ⟨fuel, logic? (level fuel n), basic? (level fuel n), arrayFilter? (level fuel n)⟩

end Collage.Template.Expression
