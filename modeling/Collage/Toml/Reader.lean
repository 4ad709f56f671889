import Collage.Toml.Basic

/-! # Reading TOML

`Toml.read` takes the text of a document for its entries, in the order of their keys.  Each function
reads one phrase of the grammar from the front of a text and gives it with the text after it, or
nothing.  Arrays and inline tables read their parts with the reader of the next depth.

The grammar is that of version 1.1, in which an inline table may go over several lines.
-/

namespace Collage.Toml

/-- Reads a phrase from the front of a text. -/
abbrev Phrase (α : Type) := List Char → Option (α × List Char)

def depthLimit : Nat := 80

/-! ## Blanks and line ends -/

def isBlank (c : Char) : Bool := c = ' ' || c = '\t'

def skip (text : List Char) : List Char := text.dropWhile isBlank

/-- Whether a character may stand in comments and strings. -/
def isPrintable (c : Char) : Bool := c = '\t' || (0x20 ≤ c.toNat && c.toNat ≠ 0x7F)

/-- The text after a line end. -/
def newline? : List Char → Option (List Char)
  | '\n' :: rest => some rest
  | '\r' :: '\n' :: rest => some rest
  | _ => none

/-- The text after the comment at its front, if there is one, with the line end ahead. -/
def skipComment : List Char → List Char
  | '#' :: rest => rest.dropWhile isPrintable
  | text => text

/-- The text after blanks, comments and line ends; `fuel` bounds their number. -/
def skipLines : Nat → List Char → List Char
  | 0, text => text
  | fuel + 1, text =>
    match newline? (skipComment (skip text)) with
    | some rest => skipLines fuel rest
    | none => skip text

/-! ## Strings -/

def hexValue? (c : Char) : Option Nat :=
  if '0' ≤ c ∧ c ≤ '9' then some (c.toNat - '0'.toNat)
  else if 'a' ≤ c ∧ c ≤ 'f' then some (c.toNat - 'a'.toNat + 10)
  else if 'A' ≤ c ∧ c ≤ 'F' then some (c.toNat - 'A'.toNat + 10)
  else none

/-- The character that some hexadecimal digits number. -/
def scalar? (digits : Nat) (text : List Char) : Option (Char × List Char) := do
  let ns ← (text.take digits).mapM hexValue?
  let n := ns.foldl (fun n d => n * 16 + d) 0
  if ns.length = digits ∧ n.isValidChar then some (Char.ofNat n, text.drop digits) else none

/-- The character an escape stands for, after its backslash. -/
def escape? : Phrase Char
  | 'b' :: rest => some ('\x08', rest)
  | 't' :: rest => some ('\t', rest)
  | 'n' :: rest => some ('\n', rest)
  | 'f' :: rest => some ('\x0c', rest)
  | 'r' :: rest => some ('\r', rest)
  | 'e' :: rest => some ('\x1b', rest)
  | '"' :: rest => some ('"', rest)
  | '\\' :: rest => some ('\\', rest)
  | 'x' :: rest => scalar? 2 rest
  | 'u' :: rest => scalar? 4 rest
  | 'U' :: rest => scalar? 8 rest
  | _ => none

/-- The text after a line end that a backslash takes away with the blanks around it. -/
def joinLine? (fuel : Nat) (text : List Char) : Option (List Char) :=
  (newline? (skip text)).map fun rest => skipBlankLines fuel rest
where
  /-- The text after blanks and line ends. -/
  skipBlankLines : Nat → List Char → List Char
    | 0, text => text
    | fuel + 1, text =>
      match newline? (skip text) with
      | some rest => skipBlankLines fuel rest
      | none => skip text

/-- A string in single lines up to its closing quote; `escapes` tells whether it may hold them. -/
def lineString (quote : Char) (escapes : Bool) : Nat → List Char → Option (List Char × List Char)
  | 0, _ => none
  | _, [] => none
  | fuel + 1, c :: rest =>
    if c = quote then some ([], rest)
    else if c = '\\' ∧ escapes then do
      let (e, rest) ← escape? rest
      let (more, rest) ← lineString quote escapes fuel rest
      some (e :: more, rest)
    else if isPrintable c then do
      let (more, rest) ← lineString quote escapes fuel rest
      some (c :: more, rest)
    else none

/-- A string over several lines up to its three closing quotes, before which two more may stand.
The line ends in it stay as they are. -/
def blockString (quote : Char) (escapes : Bool) : Nat → List Char → Option (List Char × List Char)
  | 0, _ => none
  | _, [] => none
  | fuel + 1, c :: rest =>
    let quotes := (c :: rest).takeWhile (· = quote)
    if 3 ≤ quotes.length then
      let n := min (quotes.length - 3) 2
      some (List.replicate n quote, (c :: rest).drop (n + 3))
    else
      match newline? (c :: rest) with
      | some after => do
        let (more, rest) ← blockString quote escapes fuel after
        some ((if c = '\n' then ['\n'] else ['\r', '\n']) ++ more, rest)
      | none =>
        if c = '\\' ∧ escapes then
          match joinLine? fuel rest with
          | some rest => blockString quote escapes fuel rest
          | none => do
            let (e, rest) ← escape? rest
            let (more, rest) ← blockString quote escapes fuel rest
            some (e :: more, rest)
        else if isPrintable c then do
          let (more, rest) ← blockString quote escapes fuel rest
          some (c :: more, rest)
        else none

/-- The text after a line end right after opening quotes. -/
def dropFirstLineEnd (text : List Char) : List Char := (newline? text).getD text

def string? (multiline : Bool) : Phrase String
  | '"' :: '"' :: '"' :: rest =>
    if multiline then
      (blockString '"' true (rest.length + 1) (dropFirstLineEnd rest)).map fun (s, rest) =>
        (String.ofList s, rest)
    else none
  | '\'' :: '\'' :: '\'' :: rest =>
    if multiline then
      (blockString '\'' false (rest.length + 1) (dropFirstLineEnd rest)).map fun (s, rest) =>
        (String.ofList s, rest)
    else none
  | '"' :: rest =>
    (lineString '"' true (rest.length + 1) rest).map fun (s, rest) => (String.ofList s, rest)
  | '\'' :: rest =>
    (lineString '\'' false (rest.length + 1) rest).map fun (s, rest) => (String.ofList s, rest)
  | _ => none

/-! ## Keys -/

/-- Whether a character may stand in a key without quotes. -/
def isBare (c : Char) : Bool :=
  ('a' ≤ c && c ≤ 'z') || ('A' ≤ c && c ≤ 'Z') || ('0' ≤ c && c ≤ '9') || c = '_' || c = '-'

/-- One part of a key. -/
def keyPart? (text : List Char) : Option (String × List Char) :=
  match string? false text with
  | some found => some found
  | none =>
    match text.takeWhile isBare with
    | [] => none
    | part => some (String.ofList part, text.dropWhile isBare)

/-- A key: its parts, with points between them; `fuel` bounds their number. -/
def key? : Nat → Phrase (List String)
  | 0, _ => none
  | fuel + 1, text => do
    let (part, rest) ← keyPart? text
    match skip rest with
    | '.' :: more => do
      let (parts, rest) ← key? fuel (skip more)
      some (part :: parts, rest)
    | _ => some ([part], rest)

/-! ## Numbers, booleans and dates -/

/-- Whether underscores only stand between two characters of some kind. -/
def isParted (isDigit : Char → Bool) : List Char → Bool
  | [] => true
  | '_' :: _ => false
  | [_] => true
  | c :: '_' :: d :: rest => isDigit c && isDigit d && isParted isDigit (d :: rest)
  | _ :: '_' :: [] => false
  | _ :: rest => isParted isDigit rest

/-- Whether a text is digits of some kind, at least one, with lone underscores between them. -/
def isDigits (isDigit : Char → Bool) (text : List Char) : Bool :=
  text ≠ [] && text.all (fun c => isDigit c || c = '_') && isParted isDigit text

/-- Whether a text is a decimal integer without a sign and without a zero in front. -/
def isDecimal : List Char → Bool
  | ['0'] => true
  | '0' :: _ => false
  | text => isDigits (·.isDigit) text

/-- A text without the sign at its front. -/
def unsigned : List Char → List Char
  | '+' :: rest => rest
  | '-' :: rest => rest
  | text => text

/-- Whether a text begins like a decimal integer with an underscore in it.  It may still stand for
none, but that is told only where its value is asked for. -/
def isLooseInteger (text : List Char) : Bool :=
  match text.takeWhile (·.isDigit), text.dropWhile (·.isDigit) with
  | '0' :: _, _ | [], _ => false
  | _, '_' :: rest =>
    rest.all (fun c => c ≠ '.' && c ≠ 'e' && c ≠ 'E') &&
      isParted (fun c => (hexValue? c).isSome) text
  | _, _ => false

/-- Whether a text is an integer.  That no digits follow the sign of a base is told only where its
value is asked for. -/
def isInteger (text : List Char) : Bool :=
  match text with
  | ['0', 'x'] | ['0', 'o'] | ['0', 'b'] => true
  | '0' :: 'x' :: digits => isDigits (fun c => (hexValue? c).isSome) digits
  | '0' :: 'o' :: digits => isDigits (fun c => '0' ≤ c && c ≤ '7') digits
  | '0' :: 'b' :: digits => isDigits (fun c => c = '0' || c = '1') digits
  | text => isDecimal (unsigned text) || isLooseInteger (unsigned text)

/-- A text cut at the first character that is one of some. -/
def cutAt (isCut : Char → Bool) (text : List Char) : List Char × Option (List Char) :=
  match text.dropWhile fun c => !isCut c with
  | _ :: rest => (text.takeWhile fun c => !isCut c, some rest)
  | [] => (text, none)

/-- Whether a text is a number with a fraction or an exponent. -/
def isFloat (text : List Char) : Bool :=
  let size := unsigned text
  if size = "inf".toList ∨ size = "nan".toList then true
  else
    let (mantissa, exponent) := cutAt (fun c => c = 'e' || c = 'E') size
    let (whole, fraction) := cutAt (· = '.') mantissa
    isDecimal whole && (fraction.isSome || exponent.isSome) &&
      fraction.all (isDigits (·.isDigit)) &&
      exponent.all fun e => isDigits (·.isDigit) (unsigned e)

/-- The number that a fixed count of digits at the front of a text stands for. -/
def fixed? (digits : Nat) (text : List Char) : Option (Nat × List Char) :=
  let front := text.take digits
  if front.length = digits ∧ front.all (·.isDigit) then
    some (front.foldl (fun n c => n * 10 + (c.toNat - '0'.toNat)) 0, text.drop digits)
  else none

def char? (c : Char) : List Char → Option (List Char)
  | d :: rest => if c = d then some rest else none
  | [] => none

def daysIn (year month : Nat) : Nat :=
  if month = 2 then if year % 4 = 0 ∧ (year % 100 ≠ 0 ∨ year % 400 = 0) then 29 else 28
  else if month = 4 ∨ month = 6 ∨ month = 9 ∨ month = 11 then 30 else 31

def date? (text : List Char) : Option (List Char) := do
  let (year, rest) ← fixed? 4 text
  let (month, rest) ← fixed? 2 (← char? '-' rest)
  let (day, rest) ← fixed? 2 (← char? '-' rest)
  if 1 ≤ month ∧ month ≤ 12 ∧ 1 ≤ day ∧ day ≤ daysIn year month then some rest else none

/-- The text after the time at its front, which may be without seconds. -/
def time? (text : List Char) : Option (List Char) := do
  let (hour, rest) ← fixed? 2 text
  let (minute, rest) ← fixed? 2 (← char? ':' rest)
  if hour ≤ 23 ∧ minute ≤ 59 then
    match rest with
    | ':' :: rest =>
      let (second, rest) ← fixed? 2 rest
      if 60 < second then none
      else
        match rest with
        | '.' :: c :: more => if c.isDigit then some (more.dropWhile (·.isDigit)) else none
        | _ => some rest
    | _ => some rest
  else none

/-- Whether a text is nothing or a distance from universal time. -/
def isOffset : List Char → Bool
  | [] | ['Z'] | ['z'] => true
  | sign :: rest =>
    (sign = '+' || sign = '-') &&
      match fixed? 2 rest with
      | some (hours, ':' :: minutes) =>
        match fixed? 2 minutes with
        | some (minutes, []) => hours ≤ 23 && minutes ≤ 59
        | _ => false
      | _ => false

/-- Whether a text is a date, a time or both. -/
def isMoment (text : List Char) : Bool :=
  match date? text with
  | some [] => true
  | some (sep :: rest) =>
    (sep = 'T' || sep = 't' || sep = ' ') && ((time? rest).any isOffset)
  | none => (time? text).any (·.isEmpty)

/-- Whether a character goes on with a value that is not in quotes. -/
def isPlain (c : Char) : Bool := !(" \t\r\n#=,[]\x7b\x7d".toList.contains c)

/-- The text at the front that may be a number, boolean or date: a blank may part a date and a
time. -/
def plainText (text : List Char) : List Char :=
  let first := text.takeWhile isPlain
  match date? first, text.drop first.length with
  | some [], ' ' :: c :: rest =>
    if c.isDigit then first ++ ' ' :: (c :: rest).takeWhile isPlain else first
  | _, _ => first

/-- A number, boolean or date. -/
def plain? : Phrase Literal := fun text =>
  let front := plainText text
  if front = "true".toList ∨ front = "false".toList ∨ isInteger front ∨ isFloat front ∨
      isMoment front then
    some (.plain (String.ofList front), text.drop front.length)
  else none

/-! ## Values -/

/-- The items of an array after its opening bracket; `fuel` bounds their number. -/
def items (literal? : Phrase Literal) : Nat → Phrase (List Literal)
  | 0, _ => none
  | fuel + 1, text =>
    match skipLines text.length text with
    | ']' :: rest => some ([], rest)
    | text => do
      let (v, rest) ← literal? text
      match skipLines rest.length rest with
      | ',' :: rest => do
        let (vs, rest) ← items literal? fuel rest
        some (v :: vs, rest)
      | ']' :: rest => some ([v], rest)
      | _ => none

/-- An assignment: a dotted key and the value after the equals sign.  `between` takes off what may
stand on either side of that sign. -/
def assignment? (literal? : Phrase Literal) (between : List Char → List Char) :
    Phrase (List String × Literal) := fun text => do
  let (key, rest) ← key? (text.length + 1) text
  let rest ← char? '=' (between rest)
  let (v, rest) ← literal? (between rest)
  some ((key, v), rest)

/-- The assignments of an inline table after its opening brace; `fuel` bounds their number. -/
def assignments (literal? : Phrase Literal) : Nat → Phrase (List (List String × Literal))
  | 0, _ => none
  | fuel + 1, text =>
    match skipLines text.length text with
    | '}' :: rest => some ([], rest)
    | text => do
      let (a, rest) ← assignment? literal? (fun text => skipLines text.length text) text
      match skipLines rest.length rest with
      | ',' :: rest => do
        let (others, rest) ← assignments literal? fuel rest
        some (a :: others, rest)
      | '}' :: rest => some ([a], rest)
      | _ => none

/-- A value whose arrays and inline tables are nested at most `depth` deep. -/
def literal? : Nat → Phrase Literal
  | _, '"' :: text => (string? true ('"' :: text)).map fun (s, rest) => (.string s, rest)
  | _, '\'' :: text => (string? true ('\'' :: text)).map fun (s, rest) => (.string s, rest)
  | depth + 1, '[' :: rest =>
    (items (literal? depth) (rest.length + 1) rest).map fun (vs, rest) => (.array vs, rest)
  | depth + 1, '{' :: rest =>
    (assignments (literal? depth) (rest.length + 1) rest).map fun (vs, rest) => (.table vs, rest)
  | _, text => plain? text

/-! ## Documents -/

/-- A line that says something. -/
inductive Statement where
  | assign (key : List String) (v : Literal)
  | table (key : List String)
  | list (key : List String)

/-- The statement at the front of a text. -/
def statement? : Phrase Statement
  | '[' :: '[' :: rest => do
    let (key, rest) ← key? (rest.length + 1) (skip rest)
    let rest ← char? ']' (skip rest)
    some (.list key, ← char? ']' rest)
  | '[' :: rest => do
    let (key, rest) ← key? (rest.length + 1) (skip rest)
    some (.table key, ← char? ']' (skip rest))
  | text =>
    (assignment? (literal? depthLimit) skip text).map fun ((key, v), rest) => (.assign key v, rest)

/-- The statements of a text; `fuel` bounds their number. -/
def statements? : Nat → List Char → Option (List Statement)
  | 0, _ => none
  | fuel + 1, text =>
    match skipComment (skipLines text.length text) with
    | [] => some []
    | text => do
      let (s, rest) ← statement? text
      match skipComment (skip rest) with
      | [] => some [s]
      | rest => do some (s :: (← statements? fuel (← newline? rest)))

/-- The entries after a statement and the path of the table that is open then. -/
def perform (state : List String × Entries) (s : Statement) :
    Except Fault (List String × Entries) := do
  match s with
  | .assign key v =>
    let key ← checkedKey key
    let v ← v.value
    .ok (state.1, ← possible (within (assignTo key v) state.1 state.2))
  | .table key =>
    let key ← checkedKey key
    .ok (key, ← possible (within (openTable (key.getLast?.getD "")) key.dropLast state.2))
  | .list key =>
    let key ← checkedKey key
    .ok (key, ← possible (within (openList (key.getLast?.getD "")) key.dropLast state.2))

/-- The entries of a document, in the order of their keys. -/
def read (text : String) : Except Fault (List (String × Value)) := do
  let chars := match text.toList with
    | '\uFEFF' :: rest => rest
    | cs => cs
  let statements ← possible (statements? (chars.length + 1) chars)
  let (_, entries) ← statements.foldlM perform ([], [])
  .ok (doneEntries entries)

end Collage.Toml
