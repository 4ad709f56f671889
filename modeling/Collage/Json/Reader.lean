import Collage.Json.Basic
import Collage.Text.Size

/-! # Reading JSON

`Json.read` takes a text for one JSON value with blanks around it, or says what is wrong and where:
the line, counted from 1, and the number of bytes of that line read so far.  Values may be nested
`depthLimit` deep.

The functions below read one piece each from the front of a text and give what follows it.  A fault
remembers how many bytes of the text were left.  Lists and objects read their parts with the reader
of the next depth, so the depth decreases; within one list it is the text that does, and `fuel`,
the number of characters left, says so.
-/

namespace Collage.Json

/-- How deep lists and objects may be nested. -/
def depthLimit : Nat := 127

/-- What can be wrong with a text. -/
inductive Reader.Fault where
  | endInList
  | endInObject
  | endInString
  | endInValue
  | expectedColon
  | expectedListEnd
  | expectedObjectEnd
  | expectedIdent
  | expectedValue
  | invalidEscape
  | invalidNumber
  | numberOutOfRange
  | loneSurrogate
  | controlCharacter
  | keyNotString
  | trailingComma
  | trailingCharacters
  | endOfEscape
  | tooDeep
  deriving DecidableEq, Repr

def Reader.Fault.text : Reader.Fault → String
  | endInList => "EOF while parsing a list"
  | endInObject => "EOF while parsing an object"
  | endInString => "EOF while parsing a string"
  | endInValue => "EOF while parsing a value"
  | expectedColon => "expected `:`"
  | expectedListEnd => "expected `,` or `]`"
  | expectedObjectEnd => "expected `,` or `\x7d`"
  | expectedIdent => "expected ident"
  | expectedValue => "expected value"
  | invalidEscape => "invalid escape"
  | invalidNumber => "invalid number"
  | numberOutOfRange => "number out of range"
  | loneSurrogate => "lone leading surrogate in hex escape"
  | controlCharacter => "control character (\\u0000-\\u001F) found while parsing a string"
  | keyNotString => "key must be a string"
  | trailingComma => "trailing comma"
  | trailingCharacters => "trailing characters"
  | endOfEscape => "unexpected end of hex escape"
  | tooDeep => "recursion limit exceeded"

/-- A fault and the number of bytes that were left where it was noticed. -/
structure Reader.Stop where
  fault : Reader.Fault
  left : Nat
  deriving DecidableEq, Repr

/-- What is wrong with a text, and where. -/
structure ReadError where
  fault : Reader.Fault
  line : Nat
  column : Nat
  deriving DecidableEq, Repr

def ReadError.text (e : ReadError) : String :=
  e.fault.text ++ " at line " ++ toString e.line ++ " column " ++ toString e.column

namespace Reader

/-- Stops in front of the first character of a text. -/
def stopBefore {α : Type} (fault : Fault) (text : List Char) : Except Stop α :=
  .error ⟨fault, Text.size text⟩

/-- Stops after the first byte of a text, or at its end. -/
def stopAt {α : Type} (fault : Fault) (text : List Char) : Except Stop α :=
  .error ⟨fault, Text.size text - 1⟩

def skipBlanks (text : List Char) : List Char :=
  text.dropWhile fun c => c = ' ' || c = '\n' || c = '\t' || c = '\r'

/-- Reads the letters of a word. -/
def word : List Char → List Char → Except Stop (List Char)
  | [], text => .ok text
  | _ :: _, [] => stopBefore .endInValue []
  | l :: letters, c :: text =>
    if l = c then word letters text else stopAt .expectedIdent (c :: text)

/-! ## Strings -/

def hexValue? (c : Char) : Option Nat :=
  if '0' ≤ c ∧ c ≤ '9' then some (c.toNat - '0'.toNat)
  else if 'a' ≤ c ∧ c ≤ 'f' then some (c.toNat - 'a'.toNat + 10)
  else if 'A' ≤ c ∧ c ≤ 'F' then some (c.toNat - 'A'.toNat + 10)
  else none

/-- Four hexadecimal digits: there have to be four bytes, and all of them digits. -/
def hexEscape (text : List Char) : Except Stop (Nat × List Char) :=
  if Text.size text < 4 then stopBefore .endInString []
  else
    let bad : Except Stop (Nat × List Char) := .error ⟨.invalidEscape, Text.size text - 4⟩
    match text with
    | a :: b :: c :: d :: rest =>
      match hexValue? a, hexValue? b, hexValue? c, hexValue? d with
      | some a, some b, some c, some d => .ok (((a * 16 + b) * 16 + c) * 16 + d, rest)
      | _, _, _, _ => bad
    | _ => bad

/-- One character a second escape has to begin with. -/
def continueEscape (c : Char) : List Char → Except Stop (List Char)
  | [] => stopBefore .endInString []
  | d :: rest => if d = c then .ok rest else stopAt .endOfEscape (d :: rest)

/-- The character of a `u` escape.  One outside the first 65536 takes two escapes: a leading and a
trailing surrogate. -/
def unicodeEscape (text : List Char) : Except Stop (Char × List Char) := do
  let (first, rest) ← hexEscape text
  if 0xDC00 ≤ first ∧ first ≤ 0xDFFF then stopBefore .loneSurrogate rest
  else if first < 0xD800 ∨ 0xDBFF < first then .ok (Char.ofNat first, rest)
  else
    let rest ← continueEscape '\\' rest
    let rest ← continueEscape 'u' rest
    let (second, rest) ← hexEscape rest
    if second < 0xDC00 ∨ 0xDFFF < second then stopBefore .loneSurrogate rest
    else .ok (Char.ofNat (0x10000 + (first - 0xD800) * 0x400 + (second - 0xDC00)), rest)

/-- The character an escape stands for, read after its backslash. -/
def escape : List Char → Except Stop (Char × List Char)
  | [] => stopBefore .endInString []
  | c :: rest =>
    if c = '"' ∨ c = '\\' ∨ c = '/' then .ok (c, rest)
    else if c = 'b' then .ok ('\x08', rest)
    else if c = 'f' then .ok ('\x0c', rest)
    else if c = 'n' then .ok ('\n', rest)
    else if c = 'r' then .ok ('\r', rest)
    else if c = 't' then .ok ('\t', rest)
    else if c = 'u' then unicodeEscape rest
    else stopAt .invalidEscape (c :: rest)

/-- The characters of a string up to its closing quote, put in front of the ones in `done`, last
character first. -/
def characters : Nat → List Char → List Char → Except Stop (List Char × List Char)
  | 0, _, text => stopBefore .endInString text
  | _ + 1, _, [] => stopBefore .endInString []
  | fuel + 1, done, c :: rest =>
    if c = '"' then .ok (done.reverse, rest)
    else if c = '\\' then do
      let (d, rest) ← escape rest
      characters fuel (d :: done) rest
    else if c.toNat < 0x20 then stopAt .controlCharacter (c :: rest)
    else characters fuel (c :: done) rest

/-- The rest of a string after its opening quote. -/
def stringTail (text : List Char) : Except Stop (String × List Char) := do
  let (cs, rest) ← characters (text.length + 1) [] text
  .ok (String.ofList cs, rest)

/-! ## Numbers

A number with a fraction or an exponent is read as a significand of at most 64 bits and a power of
ten; the double is their product or quotient, each of the two rounded once. -/

def isDigit (c : Char) : Bool := '0' ≤ c && c ≤ '9'

def digitValue (c : Char) : Nat := c.toNat - '0'.toNat

/-- Whether a significand has room for one more digit. -/
def hasRoom (significand : Nat) (c : Char) : Bool :=
  significand * 10 + digitValue c < unsignedBound

/-- Digits taken into a significand while there is room, with the number of digits taken. -/
def takeDigits (significand count : Nat) : List Char → Nat × Nat × List Char
  | [] => (significand, count, [])
  | c :: rest =>
    if isDigit c && hasRoom significand c then
      takeDigits (significand * 10 + digitValue c) (count + 1) rest
    else (significand, count, c :: rest)

def skipDigits (text : List Char) : List Char := text.dropWhile isDigit

def tenTo (n : Nat) : Float := Float.ofScientific 1 false n

/-- Divides by powers of ten in steps of 308. -/
def shrink : Nat → Float → Nat → Float
  | 0, x, _ => x
  | fuel + 1, x, n =>
    if n ≤ 308 then x / tenTo n
    else if x == 0 then x
    else shrink fuel (x / tenTo 308) (n - 308)

/-- The double `significand · 10^exponent`. -/
def scale (negative : Bool) (significand : Nat) (exponent : Int) (rest : List Char) :
    Except Stop (Number × List Char) :=
  let x := (UInt64.ofNat significand).toFloat
  let signed (x : Float) : Except Stop (Number × List Char) :=
    .ok (.double (if negative then -x else x), rest)
  if 0 ≤ exponent then
    if 308 < exponent then
      if x == 0 then signed x else stopBefore .numberOutOfRange rest
    else
      let y := x * tenTo exponent.toNat
      if y.isInf then stopBefore .numberOutOfRange rest else signed y
  else signed (shrink (exponent.natAbs / 308 + 1) x exponent.natAbs)

/-- The least exponent that is too great to be counted. -/
def exponentBound : Nat := 2147483648

/-- The digits of an exponent: none once it is too great. -/
def exponentDigits (value : Nat) : List Char → Option Nat × List Char
  | [] => (some value, [])
  | c :: rest =>
    if isDigit c then
      if value * 10 + digitValue c < exponentBound then
        exponentDigits (value * 10 + digitValue c) rest
      else (none, rest)
    else (some value, c :: rest)

/-- The rest of a number after the `e` of its exponent. -/
def exponentTail (negative : Bool) (significand : Nat) (start : Int) (text : List Char) :
    Except Stop (Number × List Char) :=
  let (minus, text) := match text with
    | '+' :: rest => (false, rest)
    | '-' :: rest => (true, rest)
    | _ => (false, text)
  match text with
  | [] => stopBefore .endInValue []
  | c :: rest =>
    if isDigit c then
      match exponentDigits (digitValue c) rest with
      | (some e, rest) => scale negative significand (if minus then start - e else start + e) rest
      | (none, rest) =>
        if significand ≠ 0 ∧ ¬ minus then stopBefore .numberOutOfRange rest
        else .ok (.double (if negative then -0.0 else 0.0), skipDigits rest)
    else stopAt .invalidNumber (c :: rest)

/-- The rest of a number whose digits are all taken. -/
def afterDigits (negative : Bool) (significand : Nat) (exponent : Int) (text : List Char) :
    Except Stop (Number × List Char) :=
  match text with
  | c :: rest =>
    if c = 'e' ∨ c = 'E' then exponentTail negative significand exponent rest
    else scale negative significand exponent text
  | [] => scale negative significand exponent []

/-- The rest of a number after its decimal point. -/
def fractionTail (negative : Bool) (significand : Nat) (exponent : Int) (text : List Char) :
    Except Stop (Number × List Char) :=
  let (significand, count, rest) := takeDigits significand 0 text
  if rest.head?.any isDigit then
    afterDigits negative significand (exponent - count) (skipDigits rest)
  else if count = 0 then
    match rest with
    | [] => stopAt .endInValue []
    | _ => stopAt .invalidNumber rest
  else afterDigits negative significand (exponent - count) rest

/-- The rest of a number after its integral digits. -/
def numberTail (negative : Bool) (significand : Nat) (text : List Char) :
    Except Stop (Number × List Char) :=
  match text with
  | c :: rest =>
    if c = '.' then fractionTail negative significand 0 rest
    else if c = 'e' ∨ c = 'E' then exponentTail negative significand 0 rest
    else .ok (whole, text)
  | [] => .ok (whole, [])
where
  /-- The integer; a double for zero with a minus sign and for one below the signed range. -/
  whole : Number :=
    if negative then
      if 0 < significand ∧ significand ≤ signedBound then .ofInt (-significand)
      else .double (-(UInt64.ofNat significand).toFloat)
    else .ofNat significand

/-- The rest of an integer too long for 64 bits: its further digits only count as powers of ten. -/
def longTail (negative : Bool) (significand : Nat) (text : List Char) :
    Except Stop (Number × List Char) :=
  let rest := skipDigits text
  let exponent := text.length - rest.length
  match rest with
  | '.' :: rest => fractionTail negative significand exponent rest
  | _ => afterDigits negative significand exponent rest

/-- A number without its sign. -/
def unsigned (negative : Bool) : List Char → Except Stop (Number × List Char)
  | [] => stopBefore .endInValue []
  | c :: rest =>
    if c = '0' then
      if rest.head?.any isDigit then stopAt .invalidNumber rest
      else numberTail negative 0 rest
    else if isDigit c then
      let (significand, _, rest) := takeDigits (digitValue c) 1 rest
      if rest.head?.any isDigit then longTail negative significand rest
      else numberTail negative significand rest
    else stopAt .invalidNumber (c :: rest)

/-! ## Values -/

/-- A reader of the values inside lists and objects. -/
abbrev ValueReader := List Char → Except Stop (Json × List Char)

/-- The items of a list after the first one, up to the closing bracket. -/
def items (value : ValueReader) : Nat → List Char → Except Stop (List Json × List Char)
  | 0, text => stopBefore .endInList text
  | fuel + 1, text =>
    match skipBlanks text with
    | [] => stopAt .endInList []
    | ']' :: rest => .ok ([], rest)
    | ',' :: rest =>
      match skipBlanks rest with
      | [] => stopAt .endInValue []
      | ']' :: more => stopAt .trailingComma (']' :: more)
      | more => do
        let (item, rest) ← value more
        let (others, rest) ← items value fuel rest
        .ok (item :: others, rest)
    | other => stopAt .expectedListEnd other

/-- The rest of a list after its opening bracket. -/
def listTail (value : ValueReader) (text : List Char) : Except Stop (Json × List Char) :=
  match skipBlanks text with
  | [] => stopAt .endInList []
  | ']' :: rest => .ok (.array [], rest)
  | first => do
    let (item, rest) ← value first
    let (others, rest) ← items value (rest.length + 1) rest
    .ok (.array (item :: others), rest)

/-- A field, read after the opening quote of its name. -/
def field (value : ValueReader) (text : List Char) :
    Except Stop ((String × Json) × List Char) := do
  let (name, rest) ← stringTail text
  match skipBlanks rest with
  | [] => stopAt .endInObject []
  | ':' :: rest =>
    let (content, rest) ← value rest
    .ok ((name, content), rest)
  | other => stopAt .expectedColon other

/-- The fields of an object after the first one, up to the closing brace. -/
def fields (value : ValueReader) :
    Nat → List Char → Except Stop (List (String × Json) × List Char)
  | 0, text => stopBefore .endInObject text
  | fuel + 1, text =>
    match skipBlanks text with
    | [] => stopAt .endInObject []
    | '}' :: rest => .ok ([], rest)
    | ',' :: rest =>
      match skipBlanks rest with
      | [] => stopAt .endInValue []
      | '"' :: rest => do
        let (entry, rest) ← field value rest
        let (others, rest) ← fields value fuel rest
        .ok (entry :: others, rest)
      | '}' :: more => stopAt .trailingComma ('}' :: more)
      | other => stopAt .keyNotString other
    | other => stopAt .expectedObjectEnd other

/-- The rest of an object after its opening brace. -/
def objectTail (value : ValueReader) (text : List Char) : Except Stop (Json × List Char) :=
  match skipBlanks text with
  | [] => stopAt .endInObject []
  | '}' :: rest => .ok (.object [], rest)
  | '"' :: rest => do
    let (entry, rest) ← field value rest
    let (others, rest) ← fields value (rest.length + 1) rest
    .ok (.ofFields (entry :: others), rest)
  | other => stopAt .keyNotString other

/-- A value, when `nested` reads the values inside lists and objects; without it they are too
deep. -/
def valueWith (nested : Option ValueReader) (text : List Char) : Except Stop (Json × List Char) :=
  match skipBlanks text with
  | [] => stopAt .endInValue []
  | c :: rest =>
    if c = 'n' then (word ['u', 'l', 'l'] rest).map (.null, ·)
    else if c = 't' then (word ['r', 'u', 'e'] rest).map (.bool true, ·)
    else if c = 'f' then (word ['a', 'l', 's', 'e'] rest).map (.bool false, ·)
    else if c = '-' then (unsigned true rest).map fun (n, rest) => (.number n, rest)
    else if isDigit c then (unsigned false (c :: rest)).map fun (n, rest) => (.number n, rest)
    else if c = '"' then (stringTail rest).map fun (s, rest) => (.string s, rest)
    else if c = '[' then
      match nested with
      | some value => listTail value rest
      | none => stopAt .tooDeep (c :: rest)
    else if c = '{' then
      match nested with
      | some value => objectTail value rest
      | none => stopAt .tooDeep (c :: rest)
    else stopAt .expectedValue (c :: rest)

/-- A value whose lists and objects are nested at most `depth` deep. -/
def value : Nat → List Char → Except Stop (Json × List Char)
  | 0 => valueWith none
  | depth + 1 => valueWith (some (value depth))

def document (depth : Nat) (text : List Char) : Except Stop Json := do
  let (v, rest) ← value depth text
  match skipBlanks rest with
  | [] => .ok v
  | other => stopAt .trailingCharacters other

/-- The line a byte of a text lies on and the bytes of that line before it. -/
def position (offset : Nat) (line column : Nat) : List Char → Nat × Nat
  | [] => (line, column)
  | c :: rest =>
    if offset = 0 then (line, column)
    else if offset < c.utf8Size then (line, column + offset)
    else if c = '\n' then position (offset - 1) (line + 1) 0 rest
    else position (offset - c.utf8Size) line (column + c.utf8Size) rest

end Reader

/-- The value a text stands for, with lists and objects nested at most `depth` deep. -/
def readWithin (depth : Nat) (text : String) : Except ReadError Json :=
  match Reader.document depth text.toList with
  | .ok v => .ok v
  | .error stop =>
    let (line, column) := Reader.position (Text.size text.toList - stop.left) 1 0 text.toList
    .error ⟨stop.fault, line, column⟩

/-- The value a text stands for. -/
def read (text : String) : Except ReadError Json := readWithin depthLimit text

end Collage.Json
